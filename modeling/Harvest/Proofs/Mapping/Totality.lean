/-
Mappings that cannot fail. An operation on an array of nodes fails only where it asks for what a node lacks: an attribute, or
what plain data cannot do. Expressions without attributes that leave the array at most at their end do neither, and find only
nodes inside the context; nodes of a document have values; and without transforms nothing else is asked of these.

- `KeepsNodes.apply`: such an operation turns nodes inside the context into nodes inside the context.
- `IsSafe.evaluate`: so an expression made of them gives nodes, or a plain list at its end.
- `Assignment.IsSafe.succeeds`: an assignment with such a source succeeds, and so does a nested one, at any depth.
- `safe_mapping_succeeds`: a mapping made of such assignments gives an object for every record that opens.
-/
import Harvest.Mapping.Definition
import Harvest.Proofs.Mapping.Order
import Harvest.Proofs.Mapping.Spelling
import Harvest.Proofs.Node.Value
import Harvest.Proofs.Results

namespace Harvest

/-! ## Operations -/

/-- the condition fails on no node of a document -/
def Predicate.IsTotal (p : Predicate) : Prop :=
  ∀ c, c.IsDecoded → ∃ b, p.holds c = .ok b

/-- the function fails on no node of a document -/
def NodeFunction.IsTotal (f : NodeFunction) : Prop :=
  ∀ c, c.IsDecoded → ∃ d, f.apply c = .ok d

/-- operations that find nodes from nodes and ask for no attribute -/
inductive Operation.KeepsNodes {π : Type} : Operation π → Prop
  | field (names : List String) : KeepsNodes (.field names)
  | fields (chains : List (List String)) : KeepsNodes (.fields chains)
  | path (p : π) : KeepsNodes (.path p)
  | first : KeepsNodes .first
  | last : KeepsNodes .last
  | select {p : Predicate} (total : p.IsTotal) : KeepsNodes (.select p)
  | reject {p : Predicate} (total : p.IsTotal) : KeepsNodes (.reject p)
  | concat {operand : Expression π} (keep : ∀ op ∈ operand, KeepsNodes op) : KeepsNodes (.concat operand)

/-- operations that end an expression: none, the values, or what a function that cannot fail makes of the nodes -/
inductive Operation.Ends {π : Type} : Expression π → Prop
  | none : Ends []
  | values : Ends [.values]
  | map {f : NodeFunction} (total : f.IsTotal) : Ends [.map f]

/-- nodes are found from nodes up to the end -/
def Expression.IsSafe {π : Type} (ops : Expression π) : Prop :=
  ∃ chain last, ops = chain ++ last ∧ (∀ op ∈ chain, op.KeepsNodes) ∧ Operation.Ends last

namespace Item

/-- a condition that does not fail keeps some of the nodes -/
theorem collect_keep {p : Predicate} {nodes : List Node} (holds : ∀ n ∈ nodes, ∃ b, p.holds n.content = .ok b)
    (wanted : Bool) : ∃ kept, collect (keep p wanted) (nodes.map node) = .ok (kept.map node) ∧ kept ⊆ nodes := by
  induction nodes with
  | nil => exact ⟨[], rfl, List.Subset.refl _⟩
  | cons n rest ih =>
    obtain ⟨⟨b, hb⟩, hrest⟩ := List.forall_mem_cons.1 holds
    obtain ⟨kept, hkept, hsubset⟩ := ih hrest
    by_cases h : b = wanted
    · refine ⟨n :: kept, ?_, List.cons_subset_cons n hsubset⟩
      simp [collect, keep, hb, h, hkept, Except.map]
    · refine ⟨kept, ?_, List.subset_cons_of_subset n hsubset⟩
      simp [collect, keep, hb, h, hkept, Except.map]

/-- what gives a result for each node gives all results -/
theorem collect_single {α : Type} {f : Item → Except Failure α} {nodes : List Node}
    (gives : ∀ n ∈ nodes, ∃ a, f (node n) = .ok a) : ∃ results, collect (single f) (nodes.map node) = .ok results := by
  induction nodes with
  | nil => exact ⟨[], rfl⟩
  | cons n rest ih =>
    obtain ⟨⟨a, ha⟩, hrest⟩ := List.forall_mem_cons.1 gives
    obtain ⟨results, hresults⟩ := ih hrest
    exact ⟨a :: results, by simp [collect, single, ha, hresults, Except.map]⟩

end Item

section

variable {context : Node} {nodes : List Node}

theorem holds_of_mem_singleton (context : Node) : ∀ n ∈ [context], context.Holds n := by
  rintro n hn
  obtain rfl := List.mem_singleton.1 hn
  exact .refl n

theorem holds_of_mem_followNames {names : List String} {m : Node} (inside : ∀ n ∈ nodes, context.Holds n)
    (found : m ∈ followNames nodes names) : context.Holds m := by
  rw [followNames_eq] at found
  exact holds_of_mem_resolveSteps _ inside m found

/-- operations each of which turns nodes inside the context into such nodes do so one after the other -/
theorem Operation.applyAll_nodes {chain : Expression Path}
    (each : ∀ op ∈ chain, ∀ nodes : List Node, (∀ n ∈ nodes, context.Holds n) →
      ∃ found : List Node, Operation.apply context op (.array (nodes.map .node)) = .ok (.array (found.map .node)) ∧
        ∀ n ∈ found, context.Holds n)
    (inside : ∀ n ∈ nodes, context.Holds n) (last : Expression Path) :
    ∃ found : List Node, Operation.applyAll context (chain ++ last) (.array (nodes.map .node)) =
        Operation.applyAll context last (.array (found.map .node)) ∧
      ∀ n ∈ found, context.Holds n := by
  induction chain generalizing nodes with
  | nil => exact ⟨nodes, rfl, inside⟩
  | cons op rest ih =>
    obtain ⟨hop, hrest⟩ := List.forall_mem_cons.1 each
    obtain ⟨next, hnext, hinside⟩ := hop nodes inside
    obtain ⟨found, hfound, hholds⟩ := ih hrest hinside
    refine ⟨found, ?_, hholds⟩
    rw [List.cons_append, applyAll, hnext]
    exact hfound

/-- an operation that keeps nodes turns nodes inside the context into nodes inside the context -/
theorem Operation.KeepsNodes.apply {op : Operation Path} (keeps : op.KeepsNodes) (decoded : context.IsDecoded)
    (nodes : List Node) (inside : ∀ n ∈ nodes, context.Holds n) :
    ∃ found : List Node, Operation.apply context op (.array (nodes.map .node)) = .ok (.array (found.map .node)) ∧
      ∀ n ∈ found, context.Holds n := by
  induction keeps generalizing nodes with
  | field names =>
    refine ⟨followNames nodes names, ?_, fun m hm => holds_of_mem_followNames inside hm⟩
    rw [Operation.apply, Resolved.onArray, Item.follow_nodes]
    rfl
  | fields chains =>
    refine ⟨chains.flatMap (followNames nodes), ?_, fun m hm => ?_⟩
    · rw [Operation.apply, Resolved.onArray, Item.followAll_nodes]
      rfl
    · obtain ⟨names, -, hfound⟩ := List.mem_flatMap.1 hm
      exact holds_of_mem_followNames inside hfound
  | path p =>
    refine ⟨nodes.flatMap p.resolve, ?_, fun m hm => ?_⟩
    · have hresolve : ∀ n, Item.resolve p (.node n) = .ok ((p.resolve n).map .node) := fun _ => rfl
      simp only [Operation.apply, Resolved.items?, Item.collect_nodes hresolve, Except.map]
    · obtain ⟨n, hn, hfound⟩ := List.mem_flatMap.1 hm
      exact (inside n hn).trans (holds_of_mem_resolve hfound)
  | first =>
    refine ⟨nodes.take 1, ?_, fun m hm => inside m (List.take_subset 1 nodes hm)⟩
    rw [Operation.apply, Resolved.onArray, List.map_take]
  | last =>
    refine ⟨nodes.drop (nodes.length - 1), ?_, fun m hm => inside m (List.drop_subset _ nodes hm)⟩
    rw [Operation.apply, Resolved.onArray, List.length_map, List.map_drop]
  | select total =>
    obtain ⟨kept, hkept, hsubset⟩ := Item.collect_keep (fun n hn => total n.content ((inside n hn).isDecoded decoded)) true
    refine ⟨kept, ?_, fun m hm => inside m (hsubset hm)⟩
    rw [Operation.apply, Resolved.onArray, hkept]
    rfl
  | reject total =>
    obtain ⟨kept, hkept, hsubset⟩ := Item.collect_keep (fun n hn => total n.content ((inside n hn).isDecoded decoded)) false
    refine ⟨kept, ?_, fun m hm => inside m (hsubset hm)⟩
    rw [Operation.apply, Resolved.onArray, hkept]
    rfl
  | @concat operand _ ih =>
    obtain ⟨found, hfound, hholds⟩ := applyAll_nodes ih (holds_of_mem_singleton context) []
    rw [List.append_nil] at hfound
    refine ⟨nodes ++ found, ?_, List.forall_mem_append.2 ⟨inside, hholds⟩⟩
    rw [Operation.apply, Resolved.onArray, show [Item.node context] = [context].map .node from rfl, hfound]
    simp only [applyAll, Resolved.items?, List.map_append]

end

/-! ## Expressions and sources -/

section

variable {context : Node}

/-- an expression gives nodes inside the context, or plain data -/
theorem Expression.IsSafe.evaluate {ops : Expression Path} (safe : Expression.IsSafe ops) (decoded : context.IsDecoded) :
    (∃ found : List Node, Operation.evaluate ops context = .ok (.array (found.map .node)) ∧ ∀ n ∈ found, context.Holds n) ∨
      ∃ d, Operation.evaluate ops context = .ok (.plain d) := by
  obtain ⟨chain, last, rfl, keeps, ends⟩ := safe
  obtain ⟨found, hfound, hholds⟩ := Operation.applyAll_nodes (fun op hop => (keeps op hop).apply decoded)
    (holds_of_mem_singleton context) last
  have hvalue : ∀ n ∈ found, ∃ d, Item.value (.node n) = .ok d := fun n hn =>
    ((hholds n hn).isDecoded decoded).exists_value
  rw [Operation.evaluate, show [Item.node context] = [context].map .node from rfl, hfound]
  cases ends with
  | none => exact Or.inl ⟨found, rfl, hholds⟩
  | values =>
    obtain ⟨values, hvalues⟩ := Item.collect_single hvalue
    refine Or.inr ⟨.list values, ?_⟩
    simp only [Operation.applyAll, Operation.apply, Resolved.onArray, Item.values, hvalues, Except.map]
  | map total =>
    obtain ⟨results, hresults⟩ := Item.collect_single (f := Item.apply _) fun n hn =>
      total n.content ((hholds n hn).isDecoded decoded)
    refine Or.inr ⟨.list results, ?_⟩
    simp only [Operation.applyAll, Operation.apply, Resolved.onArray, hresults, Except.map]

/-- a literal, a path, or an expression that finds nodes from nodes up to its end -/
inductive Source.IsSafe {π : Type} : Source π → Prop
  | path (p : π) : IsSafe (.path p)
  | literal (d : Data) : IsSafe (.literal d)
  | expression {ops : Expression π} (safe : Expression.IsSafe ops) : IsSafe (.expression ops)

theorem Source.IsSafe.evaluate {source : Source Path} (safe : source.IsSafe) (decoded : context.IsDecoded) :
    (∃ found : List Node, source.evaluate context = .ok (.array (found.map .node)) ∧ ∀ n ∈ found, context.Holds n) ∨
      ∃ d, source.evaluate context = .ok (.plain d) := by
  cases safe with
  | path p => exact Or.inl ⟨p.resolve context, rfl, fun m hm => holds_of_mem_resolve hm⟩
  | literal d => exact Or.inr ⟨d, rfl⟩
  | expression safe => exact safe.evaluate decoded

theorem Resolved.exists_unwrap_plain (many : Bool) (d : Data) : ∃ v?, (Resolved.plain d).unwrap many = .ok v? := by
  unfold unwrap
  split
  · exact ⟨_, rfl⟩
  · exact ⟨_, rfl⟩
  · exact ⟨_, rfl⟩
  · rename_i h
    cases h

/-- what a source gives stands for a value, or for none -/
theorem Source.IsSafe.unwrap {source : Source Path} (safe : source.IsSafe) (decoded : context.IsDecoded) (many : Bool) :
    ∃ r v?, source.evaluate context = .ok r ∧ r.unwrap many = .ok v? := by
  rcases safe.evaluate decoded with ⟨found, hfound, hholds⟩ | ⟨d, hd⟩
  · obtain ⟨values, hvalues⟩ := Item.collect_single (f := Item.value) fun n hn =>
      ((hholds n hn).isDecoded decoded).exists_value
    exact ⟨_, _, hfound, by rw [Resolved.unwrap, Item.values, hvalues]⟩
  · obtain ⟨v?, hv⟩ := Resolved.exists_unwrap_plain many d
    exact ⟨_, v?, hd, hv⟩

/-! ## Assignments -/

/-- an assignment without a transform of a safe source to an ordinary property, or a nested one made of such assignments -/
inductive Assignment.IsSafe {π : Type} : Assignment π → Prop
  | property {name : String} {source : Source π} {many : Bool} (ordinary : ObjectClass.isReserved name = false)
      (safe : source.IsSafe) : IsSafe (.property name source none many)
  | nested {name : String} {cls : ObjectClass} {path? : Option π} {many : Bool} {body : List (Assignment π)}
      (ordinary : ObjectClass.isReserved name = false) (safe : ∀ a ∈ body, IsSafe a) :
      IsSafe (.nested name cls path? many body)

namespace Assignment

theorem IsSafe.ordinary {π : Type} {a : Assignment π} (safe : a.IsSafe) : ObjectClass.isReserved a.name = false := by
  cases safe with
  | property ordinary _ => exact ordinary
  | nested ordinary _ => exact ordinary

theorem holds_of_mem_nestedContexts {path? : Option Path} {n : Node} (found : n ∈ nestedContexts context path?) :
    context.Holds n := by
  cases path? with
  | none => exact holds_of_mem_singleton context n found
  | some p => exact holds_of_mem_resolve found

/-- assignments to ordinary properties succeed in order if each of them does -/
theorem succeeds_applyAll {record : String} {as : List (Assignment Path)} (cls : ObjectClass)
    (ordinary : ∀ a ∈ as, ObjectClass.isReserved a.name = false) (each : ∀ a ∈ as, (a.evaluate record context).Succeeds)
    (properties : List (String × Data)) : (applyAll record context cls as properties).Succeeds := by
  rw [applyAll_eq_each record context cls ordinary, Run.map_succeeds_iff, Run.each_succeeds_iff]
  exact each

/-- a safe assignment succeeds in every context of a document; the induction is on the nesting -/
theorem IsSafe.succeeds {a : Assignment Path} (safe : a.IsSafe) (record : String) (context : Node)
    (decoded : context.IsDecoded) : (a.evaluate record context).Succeeds := by
  induction safe generalizing context with
  | @property name source many _ safe =>
    obtain ⟨r, v?, hr, hv⟩ := safe.unwrap decoded many
    rw [evaluate]
    refine ⟨v?, Run.bind_ok_iff.2 ⟨r, hr, Run.bind_ok_iff.2 ⟨v?, hv, ?_⟩⟩⟩
    cases v? with
    | none => rfl
    | some d => rfl
  | @nested name cls path? many body _ safe ih =>
    rw [evaluate]
    have hobjects : (Run.each (fun n => (applyAll record n cls body []).map (Data.object cls))
        (nestedContexts context path?)).Succeeds := by
      refine Run.each_succeeds_iff.2 fun n hn => Run.map_succeeds_iff.2 ?_
      have hdecoded := (holds_of_mem_nestedContexts hn).isDecoded decoded
      exact succeeds_applyAll cls (fun a ha => (safe a ha).ordinary) (fun a ha => ih a ha n hdecoded) []
    obtain ⟨objects, hobjects⟩ := hobjects
    cases objects with
    | nil => exact ⟨none, Run.bind_ok_iff.2 ⟨[], hobjects, rfl⟩⟩
    | cons o os => exact ⟨_, Run.bind_ok_iff.2 ⟨o :: os, hobjects, rfl⟩⟩

end Assignment

end

/-! ## Reading paths -/

/-- reading the paths of operations one by one -/
theorem Operation.forall₂_of_compileAll {ops : Expression String} {ops' : Expression Path}
    (h : Operation.compileAll ops = .ok ops') : List.Forall₂ (fun op op' => Operation.compile op = .ok op') ops ops' := by
  induction ops generalizing ops' with
  | nil =>
    cases h
    exact .nil
  | cons op rest ih =>
    rw [compileAll] at h
    split at h
    · cases h
    · rename_i op' hop
      obtain ⟨rest', hrest, rfl⟩ := exists_of_map h
      exact .cons hop (ih hrest)

theorem Assignment.forall₂_of_compileAll {block : List (Assignment String)} {block' : List (Assignment Path)}
    (h : Assignment.compileAll block = .ok block') :
    List.Forall₂ (fun a a' => Assignment.compile a = .ok a') block block' := by
  induction block generalizing block' with
  | nil =>
    cases h
    exact .nil
  | cons a rest ih =>
    rw [compileAll] at h
    split at h
    · cases h
    · rename_i a' ha
      obtain ⟨rest', hrest, rfl⟩ := exists_of_map h
      exact .cons ha (ih hrest)

theorem Operation.KeepsNodes.compile {op : Operation String} (keeps : op.KeepsNodes) {op' : Operation Path}
    (h : Operation.compile op = .ok op') : op'.KeepsNodes := by
  induction keeps generalizing op' with
  | field names =>
    cases h
    exact .field names
  | fields chains =>
    cases h
    exact .fields chains
  | path text =>
    obtain ⟨p, -, rfl⟩ := exists_of_map h
    exact .path p
  | first =>
    cases h
    exact .first
  | last =>
    cases h
    exact .last
  | select total =>
    cases h
    exact .select total
  | reject total =>
    cases h
    exact .reject total
  | concat _ ih =>
    obtain ⟨operand, hoperand, rfl⟩ := exists_of_map h
    exact .concat (forall_of_forall₂ (forall₂_of_compileAll hoperand) fun op hop op' => ih op hop)

theorem Expression.IsSafe.compile {ops : Expression String} (safe : Expression.IsSafe ops) {ops' : Expression Path}
    (h : Operation.compileAll ops = .ok ops') : Expression.IsSafe ops' := by
  obtain ⟨chain, last, rfl, keeps, ends⟩ := safe
  induction chain generalizing ops' with
  | nil =>
    cases ends with
    | none =>
      cases h
      exact ⟨[], [], rfl, by simp, .none⟩
    | values =>
      cases h
      exact ⟨[], [.values], rfl, by simp, .values⟩
    | map total =>
      cases h
      exact ⟨[], [.map _], rfl, by simp, .map total⟩
  | cons op rest ih =>
    obtain ⟨hop, hrest⟩ := List.forall_mem_cons.1 keeps
    rw [List.cons_append, Operation.compileAll] at h
    split at h
    · cases h
    · rename_i op' hop'
      obtain ⟨rest', hrest', rfl⟩ := exists_of_map h
      obtain ⟨chain', last', rfl, keeps', ends'⟩ := ih hrest' hrest
      exact ⟨op' :: chain', last', rfl, List.forall_mem_cons.2 ⟨hop.compile hop', keeps'⟩, ends'⟩

theorem Source.IsSafe.compile {source : Source String} (safe : source.IsSafe) {source' : Source Path}
    (h : source.compile = .ok source') : source'.IsSafe := by
  cases safe with
  | path text =>
    obtain ⟨p, -, rfl⟩ := exists_of_map h
    exact .path p
  | literal d =>
    cases h
    exact .literal d
  | expression safe =>
    obtain ⟨ops, hops, rfl⟩ := exists_of_map h
    exact .expression (safe.compile hops)

theorem Assignment.IsSafe.compile {a : Assignment String} (safe : a.IsSafe) {a' : Assignment Path}
    (h : Assignment.compile a = .ok a') : a'.IsSafe := by
  induction safe generalizing a' with
  | property ordinary safe =>
    obtain ⟨source, hsource, rfl⟩ := exists_of_map h
    exact .property ordinary (safe.compile hsource)
  | nested ordinary _ ih =>
    rw [Assignment.compile] at h
    split at h
    · cases h
    · rename_i body hbody
      obtain ⟨path?, -, rfl⟩ := exists_of_map h
      exact .nested ordinary (forall_of_forall₂ (forall₂_of_compileAll hbody) fun b hb b' => ih b hb)

/-! ## Mappings -/

/-- the record decodes, and the root path of the mapping is valid, wherever it leads -/
structure Mapping.Opens (m : Mapping) (record : Record) : Prop where
  few : m.arguments.length ≤ m.format.mostArguments
  decodes : ∃ content node, record.content = .ok content ∧ Document.IsDocument content ∧
    Document.decode 0 m.format content m.arguments = .ok node
  rooted : ∃ text p, m.arguments.headD (.str Path.root.expression) = .str text ∧ Path.read text = .ok p

/-- such a record opens at a node of its document, or at one that stands for a missing root -/
theorem Mapping.Opens.exists_document {m : Mapping} {record : Record} (opens : m.Opens record) :
    ∃ d, Document.ofRecord 0 m.format record m.arguments = .ok d ∧ d.root.IsDecoded := by
  obtain ⟨content, node, hcontent, hdocument, hdecode⟩ := opens.decodes
  obtain ⟨text, p, htext, hread⟩ := opens.rooted
  refine ⟨⟨m.format, record.name, Document.selectRoot p node⟩, ?_,
    Document.isDecoded_selectRoot (Document.isDecoded_of_decode hdocument hdecode) p⟩
  rw [Document.ofRecord, if_neg (Nat.not_lt.2 opens.few), hcontent]
  simp only [hdecode, htext, Document.rootPathOf_str hread]

/-- **A mapping without transforms and attributes cannot fail on a record that opens.** Its properties have ordinary names. Their
sources are literals, paths and expressions that find nodes from nodes up to their end; conditions and functions in them fail
on no node of a document. Its blocks are nested to any depth. Then every record that decodes is mapped to an object, whatever
its shape, and wherever the root path leads. -/
theorem safe_mapping_succeeds {defaults : Defaults} {d : Definition} {m : Mapping} (accepted : d.compile defaults = .ok m)
    (safe : ∀ a ∈ d.block, a.IsSafe) {record : Record} (opens : m.Opens record) :
    ∃ properties, (m.process record).outcome = .ok (.object m.cls properties) := by
  have hsafe : ∀ a ∈ m.assignments, a.IsSafe := by
    rw [Definition.compile] at accepted
    split at accepted
    · cases accepted
    · rename_i assignments hassignments
      cases accepted
      exact forall_of_forall₂ (Assignment.forall₂_of_compileAll hassignments) fun a ha a' => (safe a ha).compile
  obtain ⟨document, hopened, hdecoded⟩ := opens.exists_document
  have hordinary : ∀ a ∈ m.assignments, ObjectClass.isReserved a.name = false := fun a ha => (hsafe a ha).ordinary
  rw [Mapping.process_of_opened hopened]
  exact ⟨_, (Mapping.build_ok_iff hordinary document _).2
    ⟨fun a ha => (hsafe a ha).succeeds document.record document.root hdecoded, rfl⟩⟩

/-- parts, with the last extra one put behind them, as far as they have values -/
def partsExpression : Expression String :=
  [.field ["parts"], .concat [.path "$.extras[*]", .last], .select .hasValues] ++ [.values]

/-- titles that are not there, parts, and makers in a block with a block of its own -/
def makersDefinition : Definition where
  block := [
    .property "title" (.path "$.titles[0].main") none true,
    .property "part" (.expression partsExpression) none false,
    .nested "maker" ⟨"Agent", true⟩ (some "$.makers[*]") true [
      .property "name" (.path "$.name") none false,
      .nested "place" ⟨"Place", false⟩ none false [.property "kind" (.literal (.str "shop")) none false]]]
  arguments? := some [.str "$.record"]

theorem isSafe_partsExpression : Expression.IsSafe partsExpression := by
  have htotal : Predicate.hasValues.IsTotal := fun _ _ => ⟨_, rfl⟩
  refine ⟨_, _, rfl, ?_, .values⟩
  simp only [List.forall_mem_cons, List.not_mem_nil, false_imp_iff, implies_true, and_true]
  refine ⟨.field _, .concat ?_, .select htotal⟩
  simp only [List.forall_mem_cons, List.not_mem_nil, false_imp_iff, implies_true, and_true]
  exact ⟨.path _, .last⟩

theorem isSafe_makersDefinition : ∀ a ∈ makersDefinition.block, a.IsSafe := by
  simp only [makersDefinition, List.forall_mem_cons, List.not_mem_nil, false_imp_iff, implies_true, and_true]
  refine ⟨.property rfl (.path _), .property rfl (.expression isSafe_partsExpression), .nested rfl ?_⟩
  simp only [List.forall_mem_cons, List.not_mem_nil, false_imp_iff, implies_true, and_true]
  exact ⟨.property rfl (.path _), .nested rfl (List.forall_mem_singleton.2 (.property rfl (.literal _)))⟩

/-- a record of irregular shape: nested lists, nulls, and scalars in the place of mappings -/
def irregularRecord : Record :=
  .harvested (.dict [("record", .dict [("titles", .int 3), ("parts", .list [.list [.null, .list []], .str "x"]),
    ("extras", .null), ("makers", .list [.null, .int 3, .dict [("name", .dict [])]])])]) none

/-- the irregular record is mapped to an object, and so is one in which the root path leads nowhere -/
theorem irregularRecord_mapped :
    ∃ m, makersDefinition.compile {} = .ok m ∧ (∀ a ∈ makersDefinition.block, a.IsSafe) ∧ m.Opens irregularRecord ∧
      (∃ properties, (m.process irregularRecord).outcome = .ok (.object m.cls properties)) ∧
      ∃ properties, (m.process (.harvested (.str "[]") none)).outcome = .ok (.object m.cls properties) := by
  have hcompile : ∃ m, makersDefinition.compile {} = .ok m ∧ m.format = .json ∧ m.arguments = [.str "$.record"] :=
    ⟨_, rfl, rfl, rfl⟩
  obtain ⟨m, hcompile, hformat, harguments⟩ := hcompile
  have hopens : ∀ content tree, Document.IsDocument content → Document.decodeJson content = .ok tree →
      m.Opens (.harvested content none) := by
    intro content tree hdocument hdecode
    refine ⟨by simp [hformat, harguments, Format.mostArguments], ⟨content, ⟨0, [], .json tree, none⟩, rfl, hdocument, ?_⟩, ?_⟩
    · simp only [hformat, Document.decode, hdecode]
    · exact ⟨"$.record", ⟨"$.record", [.child "record"]⟩, by rw [harguments]; rfl, rfl⟩
  have hirregular : m.Opens irregularRecord := hopens _ _ (Or.inr (by decide +kernel)) rfl
  have hmissing : m.Opens (.harvested (.str "[]") none) := hopens _ (.list []) (Or.inr rfl) rfl
  exact ⟨m, hcompile, isSafe_makersDefinition, hirregular,
    safe_mapping_succeeds hcompile isSafe_makersDefinition hirregular,
    safe_mapping_succeeds hcompile isSafe_makersDefinition hmissing⟩

end Harvest
