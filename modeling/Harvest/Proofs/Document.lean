/-
Opening a record at a root. The content and the namespaces of a record do not depend on the root path, which only picks a node
of the document.

- `decodeJson_of_isJsonPart`, `decodeJson_str_ne`: a tree is decoded to itself, but no text is.
- `cases_of_decode`: what a record decodes to is an element, or a tree in which every mapping has each key once.
- `ofRecord_reroot`: with another root path, a record opens to the same document with the node that this path picks.
-/
import Harvest.Document
import Harvest.Proofs.Json.Fuel
import Harvest.Proofs.Json.Keys
import Harvest.Proofs.Results

namespace Harvest.Document

/-- of the arguments, decoding reads those after the root path only -/
theorem decode_cons (stamp : Nat) (format : Format) (content a b : Data) (more : List Data) :
    decode stamp format content (a :: more) = decode stamp format content (b :: more) := by
  cases format <;> rfl

theorem rootPathOf_str {e : String} {p : Path} (valid : Path.read e = .ok p) : rootPathOf (.str e) = .ok p := by
  have htext : (Data.str e).text = e := rfl
  simp [rootPathOf, htext, valid]

theorem read_root : Path.read Path.root.expression = .ok Path.root := rfl

theorem selectRoot_root (n : Node) : selectRoot Path.root n = n := rfl

/-- a record that opens at the root of its document opens at any other root, in the same document -/
theorem ofRecord_reroot {stamp : Nat} {format : Format} {record : Record} {more : List Data} {d : Document} {e : String}
    {p : Path} (opened : ofRecord stamp format record (.str Path.root.expression :: more) = .ok d)
    (valid : Path.read e = .ok p) :
    ofRecord stamp format record (.str e :: more) = .ok { d with root := selectRoot p d.root } := by
  unfold ofRecord at opened ⊢
  rw [List.length_cons] at opened ⊢
  split at opened
  · cases opened
  · rename_i hfew
    rw [if_neg hfew]
    cases hcontent : record.content with
    | error failure => simp [hcontent] at opened
    | ok content =>
      simp only [hcontent, List.headD_cons] at opened ⊢
      rw [decode_cons stamp format content (.str e) (.str Path.root.expression) more]
      cases hdecode : decode stamp format content (.str Path.root.expression :: more) with
      | error failure => simp [hdecode] at opened
      | ok document =>
        simp only [hdecode, rootPathOf_str read_root, selectRoot_root, Except.ok.injEq] at opened
        simp only [rootPathOf_str valid]
        rw [← opened]

/-- a path that leads somewhere picks the first node that it leads to -/
theorem selectRoot_of_resolve {p : Path} {n root : Node} {rest : List Node} (found : p.resolve root = n :: rest) :
    selectRoot p root = n := by
  rw [selectRoot, Path.first?, found]
  rfl

/-- what every tree meets that is read from a text holds of a decoded document too, if a tree that is handed over as it is meets
it -/
theorem all_of_decodeJson {p : Data → Bool} (met : Json.MetByReading p) {content tree : Data}
    (handed : (∃ bytes, content = .bytes bytes) ∨ content.all p = true) (decoded : decodeJson content = .ok tree) :
    tree.all p = true := by
  unfold decodeJson at decoded
  split at decoded
  · split at decoded
    · rename_i hread
      cases decoded
      exact Json.all_of_read_text met hread
    · cases decoded
  · split at decoded
    · cases decoded
    · split at decoded
      · rename_i hread
        cases decoded
        exact Json.all_of_read_text met hread
      · cases decoded
  · rename_i hbytes
    cases decoded
    rcases handed with ⟨bytes, rfl⟩ | hall
    · exact absurd rfl (hbytes bytes)
    · exact hall

theorem decodeJson_str (s : String) : decodeJson (.str s) = (Json.read s).mapError .badJson := by
  rw [decodeJson]
  cases Json.read s <;> rfl

/-- no text is decoded to itself -/
theorem decodeJson_str_ne (s : String) : decodeJson (.str s) ≠ .ok (.str s) := by
  intro h
  rw [decodeJson_str] at h
  exact Json.read_ne_str s (of_mapError h)

theorem decodeJson_of_isJsonPart {v : Data} (kind : v.isJsonPart = true) (other : ∀ s, v ≠ .str s) :
    decodeJson v = .ok v := by
  cases v with
  | str s => exact absurd rfl (other s)
  | bytes bytes => cases kind
  | _ => rfl

/-- a document of a format is a tree without repeated keys, or an element -/
theorem cases_of_decode {stamp : Nat} {format : Format} {content : Data} {arguments : List Data} {document : Node}
    (keyed : content.isKeyed = true) (decoded : decode stamp format content arguments = .ok document) :
    (format = .json ∧ ∃ tree, document.content = .json tree ∧ tree.isKeyed = true) ∨
    (format = .xml ∧ ∃ ns element, document.content = .xml ns element) := by
  unfold decode at decoded
  split at decoded
  · split at decoded
    · cases decoded
    · rename_i tree htree
      cases decoded
      exact .inl ⟨rfl, tree, rfl, all_of_decodeJson Json.met_hasEachKeyOnce (Or.inr keyed) htree⟩
  · split at decoded
    · cases decoded
    · split at decoded
      · cases decoded
      · cases decoded
        exact .inr ⟨rfl, _, _, rfl⟩

end Harvest.Document
