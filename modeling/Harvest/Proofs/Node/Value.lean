/-
Values of nodes. Only bytes and objects have no JSON text, and no document holds any, so every node of a document has a value,
whatever path leads to it.

- `exists_write`: every tree of JSON data has a text.
- `isDecoded_of_decode`: what a record decodes to is JSON data, or an element.
- `IsDecoded.exists_value`: then each node inside has a value.
-/
import Harvest.Proofs.Document
import Harvest.Proofs.Node.Place

namespace Harvest

namespace Json

mutual

/-- a tree of JSON data has a text -/
theorem exists_write (d : Data) (json : d.isJson = true) : ∃ text, write d = .ok text := by
  match d with
  | .null | .bool _ | .int _ | .float _ | .str _ => exact ⟨_, rfl⟩
  | .list items =>
    obtain ⟨parts, hparts⟩ := exists_writeItems items (Data.isJson_list_iff.1 json)
    exact ⟨_, by rw [write, hparts]; rfl⟩
  | .dict entries =>
    obtain ⟨parts, hparts⟩ := exists_writeEntries entries (Data.isJson_dict_iff.1 json)
    exact ⟨_, by rw [write, hparts]; rfl⟩
  | .bytes _ | .object _ _ => cases json

theorem exists_writeItems (items : List Data) (json : ∀ d ∈ items, d.isJson = true) :
    ∃ parts, writeItems items = .ok parts := by
  match items with
  | [] => exact ⟨[], rfl⟩
  | d :: rest =>
    obtain ⟨hfirst, hrest⟩ := List.forall_mem_cons.1 json
    obtain ⟨text, htext⟩ := exists_write d hfirst
    obtain ⟨parts, hparts⟩ := exists_writeItems rest hrest
    exact ⟨_, by rw [writeItems, htext, hparts]; rfl⟩

theorem exists_writeEntries (entries : List (String × Data)) (json : ∀ e ∈ entries, e.2.isJson = true) :
    ∃ parts, writeEntries entries = .ok parts := by
  match entries with
  | [] => exact ⟨[], rfl⟩
  | (key, d) :: rest =>
    obtain ⟨hfirst, hrest⟩ := List.forall_mem_cons.1 json
    obtain ⟨text, htext⟩ := exists_write d hfirst
    obtain ⟨parts, hparts⟩ := exists_writeEntries rest hrest
    exact ⟨_, by rw [writeEntries, htext, hparts]; rfl⟩

end

end Json

/-- content of a document: JSON data, or an element -/
def Content.IsDecoded : Content → Prop
  | json tree => tree.isJson = true
  | xml _ _ => True

namespace Node

/-- the node can stand in a document -/
def IsDecoded (n : Node) : Prop :=
  n.content.IsDecoded

variable {n m : Node}

theorem Holds.isDecoded (inside : n.Holds m) (decoded : n.IsDecoded) : m.IsDecoded := by
  unfold IsDecoded at decoded ⊢
  cases hcontent : n.content with
  | json top =>
    obtain ⟨tree, htree, hparts⟩ := inside.json hcontent
    rw [hcontent] at decoded
    rw [htree]
    exact hparts _ decoded
  | xml ns element =>
    obtain ⟨e, helement⟩ := inside.xml hcontent
    rw [helement]
    trivial

/-- a node of a document has a value -/
theorem IsDecoded.exists_value (decoded : n.IsDecoded) : ∃ d, n.value = .ok d := by
  unfold IsDecoded at decoded
  unfold value
  split
  · exact ⟨_, rfl⟩
  · rename_i entries hcontent
    rw [hcontent] at decoded
    obtain ⟨text, htext⟩ := Json.exists_write _ decoded
    exact ⟨_, by rw [htext]⟩
  · exact ⟨_, rfl⟩

end Node

namespace Document

/-- a document as it is handed over: its bytes, its text, or the decoded tree -/
def IsDocument (content : Data) : Prop :=
  (∃ bytes, content = .bytes bytes) ∨ content.isJson = true

/-- what a record decodes to is JSON data, or an element -/
theorem isDecoded_of_decode {stamp : Nat} {format : Format} {content : Data} {arguments : List Data} {node : Node}
    (document : IsDocument content) (decoded : decode stamp format content arguments = .ok node) : node.IsDecoded := by
  unfold decode at decoded
  split at decoded
  · split at decoded
    · cases decoded
    · rename_i tree htree
      cases decoded
      exact all_of_decodeJson Json.met_isJsonPart document htree
  · split at decoded
    · cases decoded
    · split at decoded
      · cases decoded
      · cases decoded
        trivial

/-- so is the root that a path picks, also the one that stands for a missing root -/
theorem isDecoded_selectRoot {node : Node} (decoded : node.IsDecoded) (p : Path) : (selectRoot p node).IsDecoded := by
  rw [selectRoot, Path.first?]
  cases hfound : (p.resolve node).head? with
  | some root =>
    have hmem : root ∈ p.resolve node := List.mem_of_head? hfound
    exact (holds_of_mem_resolve hmem).isDecoded decoded
  | none =>
    rw [Option.getD_none, missingRoot]
    split
    · exact rfl
    · trivial

end Document

end Harvest
