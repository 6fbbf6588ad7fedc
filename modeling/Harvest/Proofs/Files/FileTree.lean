/-
Trees of files that change. Where a path leads is told by its components alone, as long as it leads anywhere, and a change at
a location where no directory stands leaves all other paths as they were. So making directories keeps everything, and writing a
file keeps everything but what stood at its location.

- `walk_of_follow`: the location that a path leads to.
- `follow_put`, `follow_put_self`: following a path after a change.
- `makeDirectories_grows`, `Written`: what the operations keep.
-/
import Harvest.Proofs.Files.Destination
import Harvest.Proofs.Results

namespace Harvest

open Harvest.Text

namespace FileTree

/-! ## Locations -/

/-- where components lead from a directory -/
def walk (here : FilePath) (parts : List String) : FilePath :=
  parts.foldl (fun here part => if part == ".." then here.up else here.child part) here

theorem walk_append (here : FilePath) (parts more : List String) :
    walk here (parts ++ more) = walk (walk here parts) more :=
  List.foldl_append

theorem walk_cons {part : String} (plain : PlainPart part) (here : FilePath) (parts : List String) :
    walk here (part :: parts) = walk (here.child part) parts := by
  simp [walk, plain.notUp]

theorem walk_plain (here : FilePath) {parts : List String} (plain : ∀ part ∈ parts, PlainPart part) :
    walk here parts = { here with parts := here.parts ++ parts } := by
  induction parts generalizing here with
  | nil => simp [walk]
  | cons part parts ih =>
    obtain ⟨hpart, hparts⟩ := List.forall_mem_cons.1 plain
    rw [walk_cons hpart, ih (here.child part) hparts]
    simp [FilePath.child]

variable {t t' : FileTree} {whole : String} {here location : FilePath} {parts : List String} {found : Option FileEntry}

theorem follow_up (t : FileTree) (whole : String) (here : FilePath) (rest : List String) :
    t.follow whole here (".." :: rest) = t.follow whole here.up rest := by
  rw [follow.eq_def]
  rfl

theorem follow_directory {part : String} (hup : ¬(part == "..") = true)
    (short : ¬FilePath.longestPart < FilePath.byteCount part) (directory : t.find? (here.child part) = some .directory)
    (rest : List String) : t.follow whole here (part :: rest) = t.follow whole (here.child part) rest := by
  rw [follow.eq_def]
  simp only [hup, short, directory, if_false, Bool.false_eq_true]

/-- the last component leads to what stands there -/
theorem follow_last {part : String} (hup : ¬(part == "..") = true)
    (short : ¬FilePath.longestPart < FilePath.byteCount part) :
    t.follow whole here [part] = .ok (here.child part, t.find? (here.child part)) := by
  cases h : t.find? (here.child part) with
  | none => simp only [follow.eq_def, hup, short, h, if_false, Bool.false_eq_true]
  | some e =>
    cases e with
    | directory => rw [follow_directory hup short h, follow]
    | file bytes => simp only [follow.eq_def, hup, short, h, if_false, Bool.false_eq_true]

theorem walk_of_follow (h : t.follow whole here parts = .ok (location, found)) : location = walk here parts := by
  fun_induction follow t whole here parts with
  | case1 =>
    cases h
    rfl
  | case2 here part rest hup ih =>
    rw [ih h]
    simp [walk, beq_iff_eq.1 hup]
  | case4 here part rest hup _ _ ih =>
    rw [ih h]
    simp [walk, show part ≠ ".." by simpa using hup]
  | case5 here part hup =>
    cases h
    simp [walk, show part ≠ ".." by simpa using hup]
  | _ => cases h

/-- what a path leads to, if it is no directory, stands at its location -/
theorem find?_of_follow (h : t.follow whole here parts = .ok (location, found)) (other : found ≠ some .directory) :
    t.find? location = found ∧ location.isAbove = false := by
  fun_induction follow t whole here parts with
  | case1 =>
    cases h
    exact absurd rfl other
  | case2 _ _ _ _ ih => exact ih h
  | case4 _ _ _ _ _ _ ih => exact ih h
  | case5 here part hup =>
    cases h
    have hpart : part ≠ ".." := by simpa using hup
    exact ⟨rfl, by simp [FilePath.isAbove, FilePath.child, hpart]⟩
  | _ => cases h

/-! ## Changes at one location -/

section

variable {changed : FilePath} (e : FileEntry) (free : t.find? changed ≠ some .directory)

include free

/-- a path that leads elsewhere, or to a directory, leads where it led -/
theorem follow_put (h : t.follow whole here parts = .ok (location, found))
    (kept : found = some .directory ∨ location ≠ changed) :
    (t.put changed e).follow whole here parts = .ok (location, found) := by
  fun_induction follow t whole here parts with
  | case1 =>
    rw [follow]
    exact h
  | case2 here part rest hup ih =>
    rw [beq_iff_eq.1 hup, follow_up]
    exact ih h
  | case4 here part rest hup hlong hdirectory ih =>
    have hne : here.child part ≠ changed := fun same => free (same ▸ hdirectory)
    rw [follow_directory hup hlong ((find?_put_of_ne t e hne).trans hdirectory)]
    exact ih h
  | case5 here part hup hlong other =>
    cases h
    have hne : here.child part ≠ changed := kept.resolve_left other
    rw [follow_last hup hlong, find?_put_of_ne t e hne]
  | _ => cases h

/-- the path to the change leads to what is new -/
theorem follow_put_self (h : t.follow whole here parts = .ok (changed, found)) (other : found ≠ some .directory) :
    (t.put changed e).follow whole here parts = .ok (changed, some e) := by
  have hself := find?_put_self t e (find?_of_follow h other).2
  fun_induction follow t whole here parts with
  | case1 =>
    cases h
    exact absurd rfl other
  | case2 here part rest hup ih =>
    rw [beq_iff_eq.1 hup, follow_up]
    exact ih h
  | case4 here part rest hup hlong hdirectory ih =>
    have hne : here.child part ≠ changed := fun same => free (same ▸ hdirectory)
    rw [follow_directory hup hlong ((find?_put_of_ne t e hne).trans hdirectory)]
    exact ih h
  | case5 here part hup hlong =>
    cases h
    rw [follow_last hup hlong, hself]
  | _ => cases h

end

/-! ## Paths -/

variable {p q : FilePath}

theorem locate_ok_iff : t.locate p = .ok (location, found) ↔
    p.check = .ok () ∧ t.follow p.text ⟨p.start.directory, []⟩ p.parts = .ok (location, found) := by
  rw [locate]
  cases p.check with
  | error e => simp
  | ok u => simp

/-- the location that a path leads to, if it leads anywhere -/
def goal (p : FilePath) : FilePath :=
  walk ⟨p.start.directory, []⟩ p.parts

theorem goal_of_locate (h : t.locate p = .ok (location, found)) : location = goal p :=
  walk_of_follow (locate_ok_iff.1 h).2

theorem isDirectory_iff : t.isDirectory p = .ok true ↔ ∃ location, t.locate p = .ok (location, some .directory) := by
  rw [isDirectory, lookup]
  split
  · rename_i location e hlocate
    cases e <;> simp [Except.map, hlocate]
  · simp_all [Except.map]
  · simp_all [Except.map]
  · simp_all [Except.map]

theorem read_ok_iff {bytes : List UInt8} :
    t.read p = .ok bytes ↔ ∃ location, t.locate p = .ok (location, some (.file bytes)) := by
  rw [read]
  split <;> simp_all

/-- places under one directory that lead to one location are one place -/
theorem place_eq_of_location {output : FilePath} {found' : Option FileEntry} (hp : p.IsPlace) (hq : q.IsPlace)
    (leads : t.locate (output.join p) = .ok (location, found))
    (leads' : t'.locate (output.join q) = .ok (location, found')) : p = q := by
  have hwalk := (goal_of_locate leads).symm.trans (goal_of_locate leads')
  rw [goal, goal, hp.join, hq.join] at hwalk
  simp only [walk_append, walk_plain _ hp.plain, walk_plain _ hq.plain] at hwalk
  have hparts : p.parts = q.parts := List.append_cancel_left (congrArg FilePath.parts hwalk)
  obtain ⟨pstart, pparts⟩ := p
  obtain ⟨qstart, qparts⟩ := q
  obtain rfl : pparts = qparts := hparts
  rw [show pstart = qstart from hp.start.trans hq.start.symm]

/-! ## Operations -/

/-- all that a path leads to is still there -/
def Grows (t t' : FileTree) : Prop :=
  ∀ p location e, t.locate p = .ok (location, some e) → t'.locate p = .ok (location, some e)

theorem Grows.refl (t : FileTree) : t.Grows t :=
  fun _ _ _ h => h

theorem Grows.trans {t'' : FileTree} (first : t.Grows t') (second : t'.Grows t'') : t.Grows t'' :=
  fun p location e h => second p location e (first p location e h)

theorem makeDirectory_grows (h : t.makeDirectory p = .ok t') : t.Grows t' := by
  rw [makeDirectory] at h
  split at h
  · cases h
  · rename_i changed hlocate
    cases h
    have hnone := (find?_of_follow (locate_ok_iff.1 hlocate).2 (by simp)).1
    intro q location e hq
    obtain ⟨hcheck, hfollow⟩ := locate_ok_iff.1 hq
    refine locate_ok_iff.2 ⟨hcheck, follow_put .directory (by simp [hnone]) hfollow ?_⟩
    -- nothing stands where the directory is made, so a path that leads to a file leads elsewhere
    by_cases hdirectory : some e = some .directory
    · exact Or.inl hdirectory
    · refine Or.inr fun same => ?_
      have hfound := (find?_of_follow hfollow hdirectory).1
      rw [same, hnone] at hfound
      cases hfound
  · cases h
    exact Grows.refl t
  · cases h

theorem makeDirectoriesTo_grows {start : PathStart} {names : List String} (h : t.makeDirectoriesTo start names = .ok t') :
    t.Grows t' := by
  induction names generalizing t' with
  | nil =>
    cases h
    exact Grows.refl t
  | cons name outer ih =>
    rw [makeDirectoriesTo] at h
    split at h
    · cases houter : t.makeDirectoriesTo start outer with
      | error e =>
        rw [houter] at h
        cases h
      | ok made =>
        rw [houter] at h
        exact (ih houter).trans (makeDirectory_grows h)
    · exact makeDirectory_grows h

theorem makeDirectories_grows (h : t.makeDirectories p = .ok t') : t.Grows t' :=
  makeDirectoriesTo_grows h

/-- a file is written at a path, and nothing is changed but what the path led to -/
structure Written (t t' : FileTree) (p : FilePath) (bytes : List UInt8) : Prop where
  here : t'.read p = .ok bytes
  elsewhere : ∀ q location e, t.locate q = .ok (location, some e) →
    (e = .directory ∨ ∀ found, t.locate p ≠ .ok (location, found)) → t'.locate q = .ok (location, some e)

theorem written_of_write {bytes : List UInt8} (h : t.write p bytes = .ok t') : t.Written t' p bytes := by
  rw [write] at h
  split at h
  · cases h
  · cases h
  · rename_i changed found hother hlocate
    cases h
    obtain ⟨hcheck, hfollow⟩ := locate_ok_iff.1 hlocate
    have hnot : found ≠ some .directory := fun same => hother same
    have free : t.find? changed ≠ some .directory := (find?_of_follow hfollow hnot).1.symm ▸ hnot
    constructor
    · exact read_ok_iff.2 ⟨changed, locate_ok_iff.2 ⟨hcheck, follow_put_self _ free hfollow hnot⟩⟩
    · intro q location e hq hkept
      obtain ⟨hqcheck, hqfollow⟩ := locate_ok_iff.1 hq
      refine locate_ok_iff.2 ⟨hqcheck, follow_put _ free hqfollow ?_⟩
      refine hkept.imp (congrArg some) fun apart same => ?_
      exact apart found (same ▸ hlocate)

/-- a file that is written with the directories that lead to it leaves the files at other locations as they are -/
theorem read_of_writeDeep {content bytes : List UInt8} (h : t.writeDeep q content = .ok t') (apart : goal q ≠ goal p)
    (there : t.read p = .ok bytes) : t'.read p = .ok bytes := by
  obtain ⟨grown, hmade, hwrite⟩ := exists_of_bind h
  obtain ⟨location, hlocate⟩ := read_ok_iff.1 there
  have hgrown := makeDirectories_grows hmade p location _ hlocate
  refine read_ok_iff.2 ⟨location, (written_of_write hwrite).elsewhere p location _ hgrown (Or.inr fun found hq => apart ?_)⟩
  exact (goal_of_locate hq).symm.trans (goal_of_locate hlocate)

end FileTree

end Harvest
