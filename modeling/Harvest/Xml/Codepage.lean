/-
Encodings of one byte a character: the characters of the bytes from 0x80 to 0xFF. The lower half is ASCII.

The names and the characters of an encoding stand in texts, one word after the other.
-/
import Harvest.Text.Cut
import Harvest.Text.Hex

namespace Harvest.Xml

open Harvest.Text

/-- an encoding of one byte a character; its names stand between blanks, in lower case -/
structure Codepage where
  names : String
  /-- further names, in which a dot can stand for `_` -/
  aliases : String
  /-- the code points of the upper half in hexadecimal digits: `a-b` stands for all from `a` to `b`, a dot for a byte
  without character, and a dot with a number for that many of them -/
  upper : String
  /-- bytes of the lower half without character -/
  lacks : List Nat
  deriving DecidableEq, Repr, Inhabited

namespace Codepage

def hexNumber (digits : List Char) : Nat :=
  digits.foldl (fun n c => 0x10 * n + (hexValue? c).getD 0) 0

/-- the code points that one word of a description stands for -/
def codesOf (word : List Char) : List (Option Nat) :=
  match word with
  | ['.'] => [none]
  | '.' :: count => List.replicate (hexNumber count) none
  | word =>
    match cutFirst? '-' word with
    | none => [some (hexNumber word)]
    | some (first, last) =>
      (List.range (hexNumber last + 1 - hexNumber first)).map fun i => some (hexNumber first + i)

/-- the character of each byte, if it has one -/
def characters (page : Codepage) : List (Option Char) :=
  ((List.range 0x80).map fun n => if page.lacks.contains n then none else some (Char.ofNat n)) ++
    ((words page.upper.toList).flatMap codesOf).map fun code? => code?.map Char.ofNat

/-- the characters of ISO 8859-1 are the first 256 of all -/
def latinOne : Codepage :=
  ⟨"charmap latin_1 raw_unicode_escape unicode_escape",
    "8859 cp819 csisolatin1 ibm819 iso8859 iso8859_1 iso_8859_1 iso_8859_1_1987 iso_ir_100 l1 latin latin1",
    "80-FF", []⟩

def ascii : Codepage :=
  ⟨"ascii iso2022_jp iso2022_jp_1 iso2022_jp_2 iso2022_jp_2004 iso2022_jp_3 iso2022_jp_ext utf_8 utf_8_sig", "
      646 ansi_x3.4_1968 ansi_x3.4_1986 ansi_x3_4_1968 cp367 cp65001 csascii csiso2022jp ibm367 iso2022jp iso2022jp_1
      iso2022jp_2 iso2022jp_2004 iso2022jp_3 iso2022jp_ext iso646_us iso_2022_jp iso_2022_jp_1 iso_2022_jp_2
      iso_2022_jp_2004 iso_2022_jp_3 iso_2022_jp_ext iso_646.irv_1991 iso_ir_6 u8 us us_ascii utf utf8 utf8_ucs2 utf8_ucs4",
    ".80", []⟩

def all : List Codepage := [
  ascii, latinOne,
  ⟨"cp1006", "", "
      80-A0 6F0-6F9 60C 61B AD 61F FE81 FE8D FE8E FE8E FE8F FE91 FB56 FB58 FE93 FE95 FE97 FB66 FB68 FE99 FE9B FE9D
      FE9F FB7A FB7C FEA1 FEA3 FEA5 FEA7 FEA9 FB84 FEAB FEAD FB8C FEAF FB8A FEB1 FEB3 FEB5 FEB7 FEB9 FEBB FEBD FEBF
      FEC1 FEC5 FEC9-FED1 FED3 FED5 FED7 FED9 FEDB FB92 FB94 FEDD FEDF-FEE1 FEE3 FB9E FEE5 FEE7 FE85 FEED FBA6
      FBA8-FBAA FE80 FE89-FE8B FEF1-FEF3 FBB0 FBAE FE7C FE7D", []⟩,
  ⟨"cp1125", "1125 cp866u ibm1125 ruscii", "
      410-43F 2591-2593 2502 2524 2561 2562 2556 2555 2563 2551 2557 255D 255C 255B 2510 2514 2534 252C 251C 2500 253C
      255E 255F 255A 2554 2569 2566 2560 2550 256C 2567 2568 2564 2565 2559 2558 2552 2553 256B 256A 2518 250C 2588
      2584 258C 2590 2580 440-44F 401 451 490 491 404 454 406 456 407 457 B7 221A 2116 A4 25A0 A0", []⟩,
  ⟨"cp1250", "1250 windows_1250", "
      20AC . 201A . 201E 2026 2020 2021 . 2030 160 2039 15A 164 17D 179 . 2018 2019 201C 201D 2022 2013 2014 . 2122
      161 203A 15B 165 17E 17A A0 2C7 2D8 141 A4 104 A6-A9 15E AB-AE 17B B0 B1 2DB 142 B4-B8 105 15F BB 13D 2DD 13E
      17C 154 C1 C2 102 C4 139 106 C7 10C C9 118 CB 11A CD CE 10E 110 143 147 D3 D4 150 D6 D7 158 16E DA 170 DC DD 162
      DF 155 E1 E2 103 E4 13A 107 E7 10D E9 119 EB 11B ED EE 10F 111 144 148 F3 F4 151 F6 F7 159 16F FA 171 FC FD 163
      2D9", []⟩,
  ⟨"cp1251", "1251 windows_1251", "
      402 403 201A 453 201E 2026 2020 2021 20AC 2030 409 2039 40A 40C 40B 40F 452 2018 2019 201C 201D 2022 2013 2014 .
      2122 459 203A 45A 45C 45B 45F A0 40E 45E 408 A4 490 A6 A7 401 A9 404 AB-AE 407 B0 B1 406 456 491 B5-B7 451 2116
      454 BB 458 405 455 457 410-44F", []⟩,
  ⟨"cp1252", "1252 windows_1252", "
      20AC . 201A 192 201E 2026 2020 2021 2C6 2030 160 2039 152 . 17D .2 2018 2019 201C 201D 2022 2013 2014 2DC 2122
      161 203A 153 . 17E 178 A0-FF", []⟩,
  ⟨"cp1253", "1253 windows_1253", "
      20AC . 201A 192 201E 2026 2020 2021 . 2030 . 2039 .5 2018 2019 201C 201D 2022 2013 2014 . 2122 . 203A .4 A0 385
      386 A3-A9 . AB-AE 2015 B0-B3 384 B5-B7 388-38A BB 38C BD 38E-3A1 . 3A3-3CE .", []⟩,
  ⟨"cp1254", "1254 windows_1254", "
      20AC . 201A 192 201E 2026 2020 2021 2C6 2030 160 2039 152 .4 2018 2019 201C 201D 2022 2013 2014 2DC 2122 161
      203A 153 .2 178 A0-CF 11E D1-DC 130 15E DF-EF 11F F1-FC 131 15F FF", []⟩,
  ⟨"cp1255", "1255 windows_1255", "
      20AC . 201A 192 201E 2026 2020 2021 2C6 2030 . 2039 .5 2018 2019 201C 201D 2022 2013 2014 2DC 2122 . 203A .4
      A0-A3 20AA A5-A9 D7 AB-B9 F7 BB-BF 5B0-5B9 . 5BB-5C3 5F0-5F4 .7 5D0-5EA .2 200E 200F .", []⟩,
  ⟨"cp1256", "1256 windows_1256", "
      20AC 67E 201A 192 201E 2026 2020 2021 2C6 2030 679 2039 152 686 698 688 6AF 2018 2019 201C 201D 2022 2013 2014
      6A9 2122 691 203A 153 200C 200D 6BA A0 60C A2-A9 6BE AB-B9 61B BB-BE 61F 6C1 621-636 D7 637-63A 640-643 E0 644
      E2 645-648 E7-EB 649 64A EE EF 64B-64E F4 64F 650 F7 651 F9 652 FB FC 200E 200F 6D2", []⟩,
  ⟨"cp1257", "1257 windows_1257", "
      20AC . 201A . 201E 2026 2020 2021 . 2030 . 2039 . A8 2C7 B8 . 2018 2019 201C 201D 2022 2013 2014 . 2122 . 203A .
      AF 2DB . A0 . A2-A4 . A6 A7 D8 A9 156 AB-AE C6 B0-B7 F8 B9 157 BB-BE E6 104 12E 100 106 C4 C5 118 112 10C C9 179
      116 122 136 12A 13B 160 143 145 D3 14C D5-D7 172 141 15A 16A DC 17B 17D DF 105 12F 101 107 E4 E5 119 113 10D E9
      17A 117 123 137 12B 13C 161 144 146 F3 14D F5-F7 173 142 15B 16B FC 17C 17E 2D9", []⟩,
  ⟨"cp1258", "1258 windows_1258", "
      20AC . 201A 192 201E 2026 2020 2021 2C6 2030 . 2039 152 .4 2018 2019 201C 201D 2022 2013 2014 2DC 2122 . 203A
      153 .2 178 A0-C2 102 C4-CB 300 CD-CF 110 D1 309 D3 D4 1A0 D6-DC 1AF 303 DF-E2 103 E4-EB 301 ED-EF 111 F1 323 F3
      F4 1A1 F6-FC 1B0 20AB FF", []⟩,
  ⟨"cp437", "437 cspc8codepage437 ibm437", "
      C7 FC E9 E2 E4 E0 E5 E7 EA EB E8 EF EE EC C4 C5 C9 E6 C6 F4 F6 F2 FB F9 FF D6 DC A2 A3 A5 20A7 192 E1 ED F3 FA
      F1 D1 AA BA BF 2310 AC BD BC A1 AB BB 2591-2593 2502 2524 2561 2562 2556 2555 2563 2551 2557 255D 255C 255B 2510
      2514 2534 252C 251C 2500 253C 255E 255F 255A 2554 2569 2566 2560 2550 256C 2567 2568 2564 2565 2559 2558 2552
      2553 256B 256A 2518 250C 2588 2584 258C 2590 2580 3B1 DF 393 3C0 3A3 3C3 B5 3C4 3A6 398 3A9 3B4 221E 3C6 3B5
      2229 2261 B1 2265 2264 2320 2321 F7 2248 B0 2219 B7 221A 207F B2 25A0 A0", []⟩,
  ⟨"cp720", "", "
      80 81 E9 E2 84 E0 86 E7 EA EB E8 EF EE 8D-90 651 652 F4 A4 640 FB F9 621-624 A3 625-635 AB BB 2591-2593 2502
      2524 2561 2562 2556 2555 2563 2551 2557 255D 255C 255B 2510 2514 2534 252C 251C 2500 253C 255E 255F 255A 2554
      2569 2566 2560 2550 256C 2567 2568 2564 2565 2559 2558 2552 2553 256B 256A 2518 250C 2588 2584 258C 2590 2580
      636-63A 641 B5 642-64A 2261 64B-650 2248 B0 2219 B7 221A 207F B2 25A0 A0", []⟩,
  ⟨"cp737", "", "
      391-3A1 3A3-3A9 3B1-3C1 3C3 3C2 3C4-3C8 2591-2593 2502 2524 2561 2562 2556 2555 2563 2551 2557 255D 255C 255B
      2510 2514 2534 252C 251C 2500 253C 255E 255F 255A 2554 2569 2566 2560 2550 256C 2567 2568 2564 2565 2559 2558
      2552 2553 256B 256A 2518 250C 2588 2584 258C 2590 2580 3C9 3AC-3AE 3CA 3AF 3CC 3CD 3CB 3CE 386 388-38A 38C 38E
      38F B1 2265 2264 3AA 3AB F7 2248 B0 2219 B7 221A 207F B2 25A0 A0", []⟩,
  ⟨"cp775", "775 cspc775baltic ibm775", "
      106 FC E9 101 E4 123 E5 107 142 113 156 157 12B 179 C4 C5 C9 E6 C6 14D F6 122 A2 15A 15B D6 DC F8 A3 D8 D7 A4
      100 12A F3 17B 17C 17A 201D A6 A9 AE AC BD BC 141 AB BB 2591-2593 2502 2524 104 10C 118 116 2563 2551 2557 255D
      12E 160 2510 2514 2534 252C 251C 2500 253C 172 16A 255A 2554 2569 2566 2560 2550 256C 17D 105 10D 119 117 12F
      161 173 16B 17E 2518 250C 2588 2584 258C 2590 2580 D3 DF 14C 143 F5 D5 B5 144 136 137 13B 13C 146 112 145 2019
      AD B1 201C BE B6 A7 F7 201E B0 2219 B7 B9 B3 B2 25A0 A0", []⟩,
  ⟨"cp850", "850 cspc850multilingual ibm850", "
      C7 FC E9 E2 E4 E0 E5 E7 EA EB E8 EF EE EC C4 C5 C9 E6 C6 F4 F6 F2 FB F9 FF D6 DC F8 A3 D8 D7 192 E1 ED F3 FA F1
      D1 AA BA BF AE AC BD BC A1 AB BB 2591-2593 2502 2524 C1 C2 C0 A9 2563 2551 2557 255D A2 A5 2510 2514 2534 252C
      251C 2500 253C E3 C3 255A 2554 2569 2566 2560 2550 256C A4 F0 D0 CA CB C8 131 CD-CF 2518 250C 2588 2584 A6 CC
      2580 D3 DF D4 D2 F5 D5 B5 FE DE DA DB D9 FD DD AF B4 AD B1 2017 BE B6 A7 F7 B8 B0 A8 B7 B9 B3 B2 25A0 A0", []⟩,
  ⟨"cp852", "852 cspcp852 ibm852", "
      C7 FC E9 E2 E4 16F 107 E7 142 EB 150 151 EE 179 C4 106 C9 139 13A F4 F6 13D 13E 15A 15B D6 DC 164 165 141 D7 10D
      E1 ED F3 FA 104 105 17D 17E 118 119 AC 17A 10C 15F AB BB 2591-2593 2502 2524 C1 C2 11A 15E 2563 2551 2557 255D
      17B 17C 2510 2514 2534 252C 251C 2500 253C 102 103 255A 2554 2569 2566 2560 2550 256C A4 111 110 10E CB 10F 147
      CD CE 11B 2518 250C 2588 2584 162 16E 2580 D3 DF D4 143 144 148 160 161 154 DA 155 170 FD DD 163 B4 AD 2DD 2DB
      2C7 2D8 A7 F7 B8 B0 A8 2D9 171 158 159 25A0 A0", []⟩,
  ⟨"cp855", "855 csibm855 ibm855", "
      452 402 453 403 451 401 454 404 455 405 456 406 457 407 458 408 459 409 45A 40A 45B 40B 45C 40C 45E 40E 45F 40F
      44E 42E 44A 42A 430 410 431 411 446 426 434 414 435 415 444 424 433 413 AB BB 2591-2593 2502 2524 445 425 438
      418 2563 2551 2557 255D 439 419 2510 2514 2534 252C 251C 2500 253C 43A 41A 255A 2554 2569 2566 2560 2550 256C A4
      43B 41B 43C 41C 43D 41D 43E 41E 43F 2518 250C 2588 2584 41F 44F 2580 42F 440 420 441 421 442 422 443 423 436 416
      432 412 44C 42C 2116 AD 44B 42B 437 417 448 428 44D 42D 449 429 447 427 A7 25A0 A0", []⟩,
  ⟨"cp856", "", "
      5D0-5EA . A3 . D7 .A AE AC BD BC . AB BB 2591-2593 2502 2524 .3 A9 2563 2551 2557 255D A2 A5 2510 2514 2534 252C
      251C 2500 253C .2 255A 2554 2569 2566 2560 2550 256C A4 .9 2518 250C 2588 2584 A6 . 2580 .6 B5 .7 AF B4 AD B1
      2017 BE B6 A7 F7 B8 B0 A8 B7 B9 B3 B2 25A0 A0", []⟩,
  ⟨"cp857", "857 csibm857 ibm857", "
      C7 FC E9 E2 E4 E0 E5 E7 EA EB E8 EF EE 131 C4 C5 C9 E6 C6 F4 F6 F2 FB F9 130 D6 DC F8 A3 D8 15E 15F E1 ED F3 FA
      F1 D1 11E 11F BF AE AC BD BC A1 AB BB 2591-2593 2502 2524 C1 C2 C0 A9 2563 2551 2557 255D A2 A5 2510 2514 2534
      252C 251C 2500 253C E3 C3 255A 2554 2569 2566 2560 2550 256C A4 BA AA CA CB C8 . CD-CF 2518 250C 2588 2584 A6 CC
      2580 D3 DF D4 D2 F5 D5 B5 . D7 DA DB D9 EC FF AF B4 AD B1 . BE B6 A7 F7 B8 B0 A8 B7 B9 B3 B2 25A0 A0", []⟩,
  ⟨"cp858", "858 csibm858 ibm858", "
      C7 FC E9 E2 E4 E0 E5 E7 EA EB E8 EF EE EC C4 C5 C9 E6 C6 F4 F6 F2 FB F9 FF D6 DC F8 A3 D8 D7 192 E1 ED F3 FA F1
      D1 AA BA BF AE AC BD BC A1 AB BB 2591-2593 2502 2524 C1 C2 C0 A9 2563 2551 2557 255D A2 A5 2510 2514 2534 252C
      251C 2500 253C E3 C3 255A 2554 2569 2566 2560 2550 256C A4 F0 D0 CA CB C8 20AC CD-CF 2518 250C 2588 2584 A6 CC
      2580 D3 DF D4 D2 F5 D5 B5 FE DE DA DB D9 FD DD AF B4 AD B1 2017 BE B6 A7 F7 B8 B0 A8 B7 B9 B3 B2 25A0 A0", []⟩,
  ⟨"cp860", "860 csibm860 ibm860", "
      C7 FC E9 E2 E3 E0 C1 E7 EA CA E8 CD D4 EC C3 C2 C9 C0 C8 F4 F5 F2 DA F9 CC D5 DC A2 A3 D9 20A7 D3 E1 ED F3 FA F1
      D1 AA BA BF D2 AC BD BC A1 AB BB 2591-2593 2502 2524 2561 2562 2556 2555 2563 2551 2557 255D 255C 255B 2510 2514
      2534 252C 251C 2500 253C 255E 255F 255A 2554 2569 2566 2560 2550 256C 2567 2568 2564 2565 2559 2558 2552 2553
      256B 256A 2518 250C 2588 2584 258C 2590 2580 3B1 DF 393 3C0 3A3 3C3 B5 3C4 3A6 398 3A9 3B4 221E 3C6 3B5 2229
      2261 B1 2265 2264 2320 2321 F7 2248 B0 2219 B7 221A 207F B2 25A0 A0", []⟩,
  ⟨"cp861", "861 cp_is csibm861 ibm861", "
      C7 FC E9 E2 E4 E0 E5 E7 EA EB E8 D0 F0 DE C4 C5 C9 E6 C6 F4 F6 FE FB DD FD D6 DC F8 A3 D8 20A7 192 E1 ED F3 FA
      C1 CD D3 DA BF 2310 AC BD BC A1 AB BB 2591-2593 2502 2524 2561 2562 2556 2555 2563 2551 2557 255D 255C 255B 2510
      2514 2534 252C 251C 2500 253C 255E 255F 255A 2554 2569 2566 2560 2550 256C 2567 2568 2564 2565 2559 2558 2552
      2553 256B 256A 2518 250C 2588 2584 258C 2590 2580 3B1 DF 393 3C0 3A3 3C3 B5 3C4 3A6 398 3A9 3B4 221E 3C6 3B5
      2229 2261 B1 2265 2264 2320 2321 F7 2248 B0 2219 B7 221A 207F B2 25A0 A0", []⟩,
  ⟨"cp862", "862 cspc862latinhebrew ibm862", "
      5D0-5EA A2 A3 A5 20A7 192 E1 ED F3 FA F1 D1 AA BA BF 2310 AC BD BC A1 AB BB 2591-2593 2502 2524 2561 2562 2556
      2555 2563 2551 2557 255D 255C 255B 2510 2514 2534 252C 251C 2500 253C 255E 255F 255A 2554 2569 2566 2560 2550
      256C 2567 2568 2564 2565 2559 2558 2552 2553 256B 256A 2518 250C 2588 2584 258C 2590 2580 3B1 DF 393 3C0 3A3 3C3
      B5 3C4 3A6 398 3A9 3B4 221E 3C6 3B5 2229 2261 B1 2265 2264 2320 2321 F7 2248 B0 2219 B7 221A 207F B2 25A0 A0", []⟩,
  ⟨"cp863", "863 csibm863 ibm863", "
      C7 FC E9 E2 C2 E0 B6 E7 EA EB E8 EF EE 2017 C0 A7 C9 C8 CA F4 CB CF FB F9 A4 D4 DC A2 A3 D9 DB 192 A6 B4 F3 FA
      A8 B8 B3 AF CE 2310 AC BD BC BE AB BB 2591-2593 2502 2524 2561 2562 2556 2555 2563 2551 2557 255D 255C 255B 2510
      2514 2534 252C 251C 2500 253C 255E 255F 255A 2554 2569 2566 2560 2550 256C 2567 2568 2564 2565 2559 2558 2552
      2553 256B 256A 2518 250C 2588 2584 258C 2590 2580 3B1 DF 393 3C0 3A3 3C3 B5 3C4 3A6 398 3A9 3B4 221E 3C6 3B5
      2229 2261 B1 2265 2264 2320 2321 F7 2248 B0 2219 B7 221A 207F B2 25A0 A0", []⟩,
  ⟨"cp865", "865 csibm865 ibm865", "
      C7 FC E9 E2 E4 E0 E5 E7 EA EB E8 EF EE EC C4 C5 C9 E6 C6 F4 F6 F2 FB F9 FF D6 DC F8 A3 D8 20A7 192 E1 ED F3 FA
      F1 D1 AA BA BF 2310 AC BD BC A1 AB A4 2591-2593 2502 2524 2561 2562 2556 2555 2563 2551 2557 255D 255C 255B 2510
      2514 2534 252C 251C 2500 253C 255E 255F 255A 2554 2569 2566 2560 2550 256C 2567 2568 2564 2565 2559 2558 2552
      2553 256B 256A 2518 250C 2588 2584 258C 2590 2580 3B1 DF 393 3C0 3A3 3C3 B5 3C4 3A6 398 3A9 3B4 221E 3C6 3B5
      2229 2261 B1 2265 2264 2320 2321 F7 2248 B0 2219 B7 221A 207F B2 25A0 A0", []⟩,
  ⟨"cp866", "866 csibm866 ibm866", "
      410-43F 2591-2593 2502 2524 2561 2562 2556 2555 2563 2551 2557 255D 255C 255B 2510 2514 2534 252C 251C 2500 253C
      255E 255F 255A 2554 2569 2566 2560 2550 256C 2567 2568 2564 2565 2559 2558 2552 2553 256B 256A 2518 250C 2588
      2584 258C 2590 2580 440-44F 401 451 404 454 407 457 40E 45E B0 2219 B7 221A 2116 A4 25A0 A0", []⟩,
  ⟨"cp869", "869 cp_gr csibm869 ibm869", "
      .6 386 . B7 AC A6 2018 2019 388 2015 389 38A 3AA 38C .2 38E 3AB A9 38F B2 B3 3AC A3 3AD-3AF 3CA 390 3CC 3CD
      391-397 BD 398 399 AB BB 2591-2593 2502 2524 39A-39D 2563 2551 2557 255D 39E 39F 2510 2514 2534 252C 251C 2500
      253C 3A0 3A1 255A 2554 2569 2566 2560 2550 256C 3A3-3A9 3B1-3B3 2518 250C 2588 2584 3B4 3B5 2580 3B6-3C1 3C3 3C2
      3C4 384 AD B1 3C5-3C7 A7 3C8 385 B0 A8 3C9 3CB 3B0 3CE 25A0 A0", []⟩,
  ⟨"cp874", "",
    "20AC .4 2026 .B 2018 2019 201C 201D 2022 2013 2014 .8 A0 E01-E3A .4 E3F-E5B .4", []⟩,
  ⟨"hp_roman8", "cp1051 ibm1051 r8 roman8", "
      80-A0 C0 C2 C8 CA CB CE CF B4 2CB 2C6 A8 2DC D9 DB 20A4 AF DD FD B0 C7 E7 D1 F1 A1 BF A4 A3 A5 A7 192 A2 E2 EA
      F4 FB E1 E9 F3 FA E0 E8 F2 F9 E4 EB F6 FC C5 EE D8 C6 E5 ED F8 E6 C4 EC D6 DC C9 EF DF D4 C1 C3 E3 D0 F0 CD CC
      D3 D2 D5 F5 160 161 DA 178 FF DE FE B7 B5 B6 BE 2014 BC BD AA BA AB 25A0 BB B1 .", []⟩,
  ⟨"hz", "hz_gb hz_gb_2312 hzgb",
    ".80", [0x7E]⟩,
  ⟨"iso8859_10", "csisolatin6 iso_8859_10 iso_8859_10_1992 iso_ir_157 l6 latin6", "
      80-A0 104 112 122 12A 128 136 A7 13B 110 160 166 17D AD 16A 14A B0 105 113 123 12B 129 137 B7 13C 111 161 167
      17E 2015 16B 14B 100 C1-C6 12E 10C C9 118 CB 116 CD-D0 145 14C D3-D6 168 D8 172 DA-DF 101 E1-E6 12F 10D E9 119
      EB 117 ED-F0 146 14D F3-F6 169 F8 173 FA-FE 138", []⟩,
  ⟨"iso8859_11", "iso_8859_11 iso_8859_11_2001 thai",
    "80-A0 E01-E3A .4 E3F-E5B .4", []⟩,
  ⟨"iso8859_13", "iso_8859_13 l7 latin7", "
      80-A0 201D A2-A4 201E A6 A7 D8 A9 156 AB-AE C6 B0-B3 201C B5-B7 F8 B9 157 BB-BE E6 104 12E 100 106 C4 C5 118 112
      10C C9 179 116 122 136 12A 13B 160 143 145 D3 14C D5-D7 172 141 15A 16A DC 17B 17D DF 105 12F 101 107 E4 E5 119
      113 10D E9 17A 117 123 137 12B 13C 161 144 146 F3 14D F5-F7 173 142 15B 16B FC 17C 17E 2019", []⟩,
  ⟨"iso8859_14", "iso_8859_14 iso_8859_14_1998 iso_celtic iso_ir_199 l8 latin8", "
      80-A0 1E02 1E03 A3 10A 10B 1E0A A7 1E80 A9 1E82 1E0B 1EF2 AD AE 178 1E1E 1E1F 120 121 1E40 1E41 B6 1E56 1E81
      1E57 1E83 1E60 1EF3 1E84 1E85 1E61 C0-CF 174 D1-D6 1E6A D8-DD 176 DF-EF 175 F1-F6 1E6B F8-FD 177 FF", []⟩,
  ⟨"iso8859_15", "iso_8859_15 l9 latin9",
    "80-A3 20AC A5 160 A7 161 A9-B3 17D B5-B7 17E B9-BB 152 153 178 BF-FF", []⟩,
  ⟨"iso8859_16", "iso_8859_16 iso_8859_16_2001 iso_ir_226 l10 latin10", "
      80-A0 104 105 141 20AC 201E 160 A7 161 A9 218 AB 179 AD 17A 17B B0 B1 10C 142 17D 201D B6 B7 17E 10D 219 BB 152
      153 178 17C C0-C2 102 C4 106 C6-CF 110 143 D2-D4 150 D6 15A 170 D9-DC 118 21A DF-E2 103 E4 107 E6-EF 111 144
      F2-F4 151 F6 15B 171 F9-FC 119 21B FF", []⟩,
  ⟨"iso8859_2", "csisolatin2 iso_8859_2 iso_8859_2_1987 iso_ir_101 l2 latin2", "
      80-A0 104 2D8 141 A4 13D 15A A7 A8 160 15E 164 179 AD 17D 17B B0 105 2DB 142 B4 13E 15B 2C7 B8 161 15F 165 17A
      2DD 17E 17C 154 C1 C2 102 C4 139 106 C7 10C C9 118 CB 11A CD CE 10E 110 143 147 D3 D4 150 D6 D7 158 16E DA 170
      DC DD 162 DF 155 E1 E2 103 E4 13A 107 E7 10D E9 119 EB 11B ED EE 10F 111 144 148 F3 F4 151 F6 F7 159 16F FA 171
      FC FD 163 2D9", []⟩,
  ⟨"iso8859_3", "csisolatin3 iso_8859_3 iso_8859_3_1988 iso_ir_109 l3 latin3", "
      80-A0 126 2D8 A3 A4 . 124 A7 A8 130 15E 11E 134 AD . 17B B0 127 B2-B5 125 B7 B8 131 15F 11F 135 BD . 17C C0-C2 .
      C4 10A 108 C7-CF . D1-D4 120 D6 D7 11C D9-DC 16C 15C DF-E2 . E4 10B 109 E7-EF . F1-F4 121 F6 F7 11D F9-FC 16D
      15D 2D9", []⟩,
  ⟨"iso8859_4", "csisolatin4 iso_8859_4 iso_8859_4_1988 iso_ir_110 l4 latin4", "
      80-A0 104 138 156 A4 128 13B A7 A8 160 112 122 166 AD 17D AF B0 105 2DB 157 B4 129 13C 2C7 B8 161 113 123 167
      14A 17E 14B 100 C1-C6 12E 10C C9 118 CB 116 CD CE 12A 110 145 14C 136 D4-D8 172 DA-DC 168 16A DF 101 E1-E6 12F
      10D E9 119 EB 117 ED EE 12B 111 146 14D 137 F4-F8 173 FA-FC 169 16B 2D9", []⟩,
  ⟨"iso8859_5", "csisolatincyrillic cyrillic iso_8859_5 iso_8859_5_1988 iso_ir_144",
    "80-A0 401-40C AD 40E-44F 2116 451-45C A7 45E 45F", []⟩,
  ⟨"iso8859_6", "arabic asmo_708 csisolatinarabic ecma_114 iso_8859_6 iso_8859_6_1987 iso_ir_127",
    "80-A0 .3 A4 .7 60C AD .D 61B .3 61F . 621-63A .5 640-652 .D", []⟩,
  ⟨"iso8859_7", "csisolatingreek ecma_118 elot_928 greek greek8 iso_8859_7 iso_8859_7_1987 iso_ir_126",
    "80-A0 2018 2019 A3 20AC 20AF A6-A9 37A AB-AD . 2015 B0-B3 384-386 B7 388-38A BB 38C BD 38E-3A1 . 3A3-3CE .", []⟩,
  ⟨"iso8859_8", "csisolatinhebrew hebrew iso_8859_8 iso_8859_8_1988 iso_ir_138",
    "80-A0 . A2-A9 D7 AB-B9 F7 BB-BE .20 2017 5D0-5EA .2 200E 200F .", []⟩,
  ⟨"iso8859_9", "csisolatin5 iso_8859_9 iso_8859_9_1989 iso_ir_148 l5 latin5",
    "80-CF 11E D1-DC 130 15E DF-EF 11F F1-FC 131 15F FF", []⟩,
  ⟨"koi8_r", "cskoi8r", "
      2500 2502 250C 2510 2514 2518 251C 2524 252C 2534 253C 2580 2584 2588 258C 2590-2593 2320 25A0 2219 221A 2248
      2264 2265 A0 2321 B0 B2 B7 F7 2550-2552 451 2553-2561 401 2562-256C A9 44E 430 431 446 434 435 444 433 445
      438-43F 44F 440-443 436 432 44C 44B 437 448 44D 449 447 44A 42E 410 411 426 414 415 424 413 425 418-41F 42F
      420-423 416 412 42C 42B 417 428 42D 429 427 42A", []⟩,
  ⟨"koi8_t", "", "
      49B 493 201A 492 201E 2026 2020 2021 . 2030 4B3 2039 4B2 4B7 4B6 . 49A 2018 2019 201C 201D 2022 2013 2014 . 2122
      . 203A .5 4EF 4EE 451 A4 4E3 A6 A7 .3 AB-AE . B0-B2 401 . 4E2 B6 B7 . 2116 . BB .3 A9 44E 430 431 446 434 435
      444 433 445 438-43F 44F 440-443 436 432 44C 44B 437 448 44D 449 447 44A 42E 410 411 426 414 415 424 413 425
      418-41F 42F 420-423 416 412 42C 42B 417 428 42D 429 427 42A", []⟩,
  ⟨"koi8_u", "", "
      2500 2502 250C 2510 2514 2518 251C 2524 252C 2534 253C 2580 2584 2588 258C 2590-2593 2320 25A0 2219 221A 2248
      2264 2265 A0 2321 B0 B2 B7 F7 2550-2552 451 454 2554 456 457 2557-255B 491 255D-2561 401 404 2563 406 407
      2566-256A 490 256C A9 44E 430 431 446 434 435 444 433 445 438-43F 44F 440-443 436 432 44C 44B 437 448 44D 449
      447 44A 42E 410 411 426 414 415 424 413 425 418-41F 42F 420-423 416 412 42C 42B 417 428 42D 429 427 42A", []⟩,
  ⟨"kz1048", "kz_1048 rk1048 strk1048_2002", "
      402 403 201A 453 201E 2026 2020 2021 20AC 2030 409 2039 40A 49A 4BA 40F 452 2018 2019 201C 201D 2022 2013 2014 .
      2122 459 203A 45A 49B 4BB 45F A0 4B0 4B1 4D8 A4 4E8 A6 A7 401 A9 492 AB-AE 4AE B0 B1 406 456 4E9 B5-B7 451 2116
      493 BB 4D9 4A2 4A3 4AF 410-44F", []⟩,
  ⟨"mac_croatian", "", "
      C4 C5 C7 C9 D1 D6 DC E1 E0 E2 E4 E3 E5 E7 E9 E8 EA EB ED EC EE EF F1 F3 F2 F4 F6 F5 FA F9 FB FC 2020 B0 A2 A3 A7
      2022 B6 DF AE 160 2122 B4 A8 2260 17D D8 221E B1 2264 2265 2206 B5 2202 2211 220F 161 222B AA BA 3A9 17E F8 BF
      A1 AC 221A 192 2248 106 AB 10C 2026 A0 C0 C3 D5 152 153 110 2014 201C 201D 2018 2019 F7 25CA F8FF A9 2044 20AC
      2039 203A C6 BB 2013 B7 201A 201E 2030 C2 107 C1 10D C8 CD-CF CC D3 D4 111 D2 DA DB D9 131 2C6 2DC AF 3C0 CB 2DA
      B8 CA E6 2C7", []⟩,
  ⟨"mac_cyrillic", "maccyrillic", "
      410-42F 2020 B0 490 A3 A7 2022 B6 406 AE A9 2122 402 452 2260 403 453 221E B1 2264 2265 456 B5 491 408 404 454
      407 457 409 459 40A 45A 458 405 AC 221A 192 2248 2206 AB BB 2026 A0 40B 45B 40C 45C 455 2013 2014 201C 201D 2018
      2019 F7 201E 40E 45E 40F 45F 2116 401 451 44F 430-44E 20AC", []⟩,
  ⟨"mac_greek", "macgreek", "
      C4 B9 B2 C9 B3 D6 DC 385 E0 E2 E4 384 A8 E7 E9 E8 EA EB A3 2122 EE EF 2022 BD 2030 F4 F6 A6 20AC F9 FB FC 2020
      393 394 398 39B 39E 3A0 DF AE A9 3A3 3AA A7 2260 B0 B7 391 B1 2264 2265 A5 392 395-397 399 39A 39C 3A6 3AB 3A8
      3A9 3AC 39D AC 39F 3A1 2248 3A4 AB BB 2026 A0 3A5 3A7 386 388 153 2013 2015 201C 201D 2018 2019 F7 389 38A 38C
      38E 3AD-3AF 3CC 38F 3CD 3B1 3B2 3C8 3B4 3B5 3C6 3B3 3B7 3B9 3BE 3BA-3BD 3BF 3C0 3CE 3C1 3C3 3C4 3B8 3C9 3C2 3C7
      3C5 3B6 3CA 3CB 390 3B0 AD", []⟩,
  ⟨"mac_iceland", "maciceland", "
      C4 C5 C7 C9 D1 D6 DC E1 E0 E2 E4 E3 E5 E7 E9 E8 EA EB ED EC EE EF F1 F3 F2 F4 F6 F5 FA F9 FB FC DD B0 A2 A3 A7
      2022 B6 DF AE A9 2122 B4 A8 2260 C6 D8 221E B1 2264 2265 A5 B5 2202 2211 220F 3C0 222B AA BA 3A9 E6 F8 BF A1 AC
      221A 192 2248 2206 AB BB 2026 A0 C0 C3 D5 152 153 2013 2014 201C 201D 2018 2019 F7 25CA FF 178 2044 20AC D0 F0
      DE FE FD B7 201A 201E 2030 C2 CA C1 CB C8 CD-CF CC D3 D4 F8FF D2 DA DB D9 131 2C6 2DC AF 2D8-2DA B8 2DD 2DB 2C7", []⟩,
  ⟨"mac_latin2", "mac_centeuro maccentraleurope maclatin2", "
      C4 100 101 C9 104 D6 DC E1 105 10C E4 10D 106 107 E9 179 17A 10E ED 10F 112 113 116 F3 117 F4 F6 F5 FA 11A 11B
      FC 2020 B0 118 A3 A7 2022 B6 DF AE A9 2122 119 A8 2260 123 12E 12F 12A 2264 2265 12B 136 2202 2211 142 13B-13E
      139 13A 145 146 143 AC 221A 144 147 2206 AB BB 2026 A0 148 150 D5 151 14C 2013 2014 201C 201D 2018 2019 F7 25CA
      14D 154 155 158 2039 203A 159 156 157 160 201A 201E 161 15A 15B C1 164 165 CD 17D 17E 16A D3 D4 16B 16E DA
      16F-173 DD FD 137 17B 141 17C 122 2C7", []⟩,
  ⟨"mac_roman", "macintosh macroman", "
      C4 C5 C7 C9 D1 D6 DC E1 E0 E2 E4 E3 E5 E7 E9 E8 EA EB ED EC EE EF F1 F3 F2 F4 F6 F5 FA F9 FB FC 2020 B0 A2 A3 A7
      2022 B6 DF AE A9 2122 B4 A8 2260 C6 D8 221E B1 2264 2265 A5 B5 2202 2211 220F 3C0 222B AA BA 3A9 E6 F8 BF A1 AC
      221A 192 2248 2206 AB BB 2026 A0 C0 C3 D5 152 153 2013 2014 201C 201D 2018 2019 F7 25CA FF 178 2044 20AC 2039
      203A FB01 FB02 2021 B7 201A 201E 2030 C2 CA C1 CB C8 CD-CF CC D3 D4 F8FF D2 DA DB D9 131 2C6 2DC AF 2D8-2DA B8
      2DD 2DB 2C7", []⟩,
  ⟨"mac_romanian", "", "
      C4 C5 C7 C9 D1 D6 DC E1 E0 E2 E4 E3 E5 E7 E9 E8 EA EB ED EC EE EF F1 F3 F2 F4 F6 F5 FA F9 FB FC 2020 B0 A2 A3 A7
      2022 B6 DF AE A9 2122 B4 A8 2260 102 218 221E B1 2264 2265 A5 B5 2202 2211 220F 3C0 222B AA BA 3A9 103 219 BF A1
      AC 221A 192 2248 2206 AB BB 2026 A0 C0 C3 D5 152 153 2013 2014 201C 201D 2018 2019 F7 25CA FF 178 2044 20AC 2039
      203A 21A 21B 2021 B7 201A 201E 2030 C2 CA C1 CB C8 CD-CF CC D3 D4 F8FF D2 DA DB D9 131 2C6 2DC AF 2D8-2DA B8 2DD
      2DB 2C7", []⟩,
  ⟨"mac_turkish", "macturkish", "
      C4 C5 C7 C9 D1 D6 DC E1 E0 E2 E4 E3 E5 E7 E9 E8 EA EB ED EC EE EF F1 F3 F2 F4 F6 F5 FA F9 FB FC 2020 B0 A2 A3 A7
      2022 B6 DF AE A9 2122 B4 A8 2260 C6 D8 221E B1 2264 2265 A5 B5 2202 2211 220F 3C0 222B AA BA 3A9 E6 F8 BF A1 AC
      221A 192 2248 2206 AB BB 2026 A0 C0 C3 D5 152 153 2013 2014 201C 201D 2018 2019 F7 25CA FF 178 11E 11F 130 131
      15E 15F 2021 B7 201A 201E 2030 C2 CA C1 CB C8 CD-CF CC D3 D4 F8FF D2 DA DB D9 F8A0 2C6 2DC AF 2D8-2DA B8 2DD 2DB
      2C7", []⟩,
  ⟨"palmos", "", "
      20AC 81 201A 192 201E 2026 2020 2021 2C6 2030 160 2039 152 2666 2663 2665 2660 2018 2019 201C 201D 2022 2013
      2014 2DC 2122 161 9B 153 9D 9E 178 A0-FF", []⟩,
  ⟨"ptcp154", "cp154 csptcp154 cyrillic_asian pt154", "
      496 492 4EE 493 201E 2026 4B6 4AE 4B2 4AF 4A0 4E2 4A2 49A 4BA 4B8 497 2018 2019 201C 201D 2022 2013 2014 4B3 4B7
      4A1 4E3 4A3 49B 4BB 4B9 A0 40E 45E 408 4E8 498 4B0 A7 401 A9 4D8 AB AC 4EF AE 49C B0 4B1 406 456 499 4E9 B6 B7
      451 2116 4D9 BB 458 4AA 4AB 49D 410-44F", []⟩,
  ⟨"tis_620", "iso_ir_166 tis620 tis_620_0 tis_620_2529_0 tis_620_2529_1",
    "80-9F . E01-E3A .4 E3F-E5B .4", []⟩]

end Codepage

end Harvest.Xml
