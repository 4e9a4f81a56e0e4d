-- SUMMARY: Reading the dump of a node, as whatever the node was read as, gives the node again.
import CustomElement.Proofs.Interchange.RoundTrip

/-! ## Nodes of every kind, read again

A value may be read as a kind although it is not what a node of that kind is dumped as: fields may be
missing or unknown, numbers may be written in other ways. What is read from it is a node of that kind
all the same, and the dump of the node is read back. So reading a second time changes nothing. -/

namespace CustomElement.Interchange

open Syntax Json

/-! ## The kind of what is read -/

section

variable {name : String} {fs : Fields}

theorem gives_expressionKind {read : Fields → Checked Expression}
    (h : expressionKind name = some read) : (read fs).Gives (·.kindName = name) := by
  unfold expressionKind at h
  -- The cases stand in the order of the table of kinds; each `seq` passes a field that is checked.
  split at h <;> cases h
  · exact Checked.gives_map fun _ _ => rfl
  · apply Checked.Gives.seq
    exact gives_nodeOf fun _ _ => rfl
  · exact gives_nodeOf fun _ => rfl
  · apply Checked.Gives.seq
    exact gives_nodeOf fun _ _ => rfl
  · apply Checked.Gives.seq
    exact gives_nodeOf fun _ _ => rfl
  · exact .seq (.seq (gives_nodeOf fun _ _ _ => rfl) _) _
  · exact .seq (.seq (gives_nodeOf fun _ _ _ => rfl) _) _

theorem gives_statementKind {read : Fields → Checked Statement}
    (h : statementKind name = some read) : (read fs).Gives (·.kindName = name) := by
  unfold statementKind at h
  split at h <;> cases h
  · apply Checked.Gives.seq
    exact gives_itemOf fun _ _ => rfl
  · exact .seq (.seq (.seq (gives_itemOf fun _ _ _ _ => rfl) _) _) _
  · apply Checked.Gives.seq
    exact gives_itemOf fun _ _ => rfl
  · exact Checked.gives_map fun _ _ => rfl
  · exact Checked.gives_map fun _ _ => rfl

theorem gives_itemKind {read : Fields → Checked ModuleItem} (h : itemKind name = some read) :
    (read fs).Gives (·.kindName = name) := by
  unfold itemKind at h
  split at h
  · cases h
    apply Checked.Gives.seq
    exact gives_itemOf fun _ _ => rfl
  · cases h
    apply Checked.Gives.seq
    exact gives_itemOf fun _ _ => rfl
  · obtain ⟨statement, hstatement, rfl⟩ := Option.map_eq_some_iff.mp h
    exact Checked.gives_map (gives_statementKind hstatement)

/-- What is read as an item is of a kind that may stand in a module. -/
theorem gives_item (r : Reading) : (asAlternative itemKind r).Gives MayStand := by
  apply gives_asAlternative
  intro kind read fs hkind i hi
  have hname : i.kindName = kind := gives_itemKind hkind i hi
  rw [MayStand, hname, hkind]
  rfl

/-- The items of a module that is read are of kinds that may stand there. -/
theorem gives_moduleOfFields : (moduleOfFields fs).Gives fun m => ∀ i ∈ m.body, MayStand i := by
  refine .seq (Checked.gives_seq ?_ (Fields.gives_list gives_item)) _
  exact gives_nodeOf fun _ _ hbody _ => hbody

end

/-! ## Nodes -/

/-- A node that can be read: what stands in a module is of a kind that may stand there. -/
def Readable : AnyNode → Prop
  | .module m => ∀ i ∈ m.body, MayStand i
  | _ => True

section

variable {name : String} {fs : Fields} {read : Fields → Checked AnyNode}

theorem gives_programKind (h : programKind name = some read) :
    (read fs).Gives fun n => n.kindName = name ∧ Readable n := by
  unfold programKind at h
  split at h <;> cases h
  · exact Checked.gives_map fun m hm => ⟨rfl, gives_moduleOfFields m hm⟩
  · exact Checked.gives_map fun _ _ => ⟨rfl, trivial⟩

/-- What is read as a kind is a node of that kind. -/
theorem gives_nodeKind (h : nodeKind name = some read) :
    (read fs).Gives fun n => n.kindName = name ∧ Readable n := by
  unfold nodeKind at h
  split at h
  case h_7 =>
    simp only [Option.orElse_eq_orElse, Option.orElse_eq_or, Option.or_eq_some_iff,
      Option.map_eq_some_iff] at h
    rcases h with hprogram | ⟨_, ⟨expression, hexpression, rfl⟩ | ⟨_, item, hitem, rfl⟩⟩
    · exact gives_programKind hprogram
    · exact Checked.gives_map fun e he => ⟨gives_expressionKind hexpression e he, trivial⟩
    · exact Checked.gives_map fun i hi => ⟨gives_itemKind hitem i hi, trivial⟩
  all_goals
    cases h
    exact Checked.gives_map fun _ _ => ⟨rfl, trivial⟩

end

/-! ## Reading again -/

/-- The dump of a node is read back as the kind that the node has. -/
theorem node_dump (n : AnyNode) (h : Readable n) :
    ∃ read, nodeKind n.kindName = some read ∧ asKind read (.of (dumpNode n)) = .ok n := by
  cases n with
  | span s => exact ⟨_, rfl, asKind_map_eq_ok AnyNode.span (asKind_dumpSpan s)⟩
  | bare span =>
    refine ⟨_, rfl, Checked.map_eq_ok AnyNode.bare ?_⟩
    exact spanField_readFields (by simp)
  | bareItem place =>
    refine ⟨_, rfl, Checked.map_eq_ok AnyNode.bareItem ?_⟩
    exact placeFields_readFields (by simp) (by simp)
  | expression e =>
    have hkind : nodeKind e.kindName =
        (expressionKind e.kindName).map fun read fs => .expression <$> read fs := by
      cases e <;> rfl
    have he := expression_dump e
    rw [Reading.expression_of] at he
    exact asKind_of_asAlternative (type_dumpExpression e) hkind he
  | property p =>
    have hp := property_dump p
    rw [Reading.property_of] at hp
    exact ⟨_, rfl, asKind_map_eq_ok AnyNode.property hp⟩
  | constructor c =>
    have hc := constructor_dump c
    rw [Reading.constructor_of] at hc
    exact ⟨_, rfl, asKind_map_eq_ok AnyNode.constructor hc⟩
  | item i =>
    cases i with
    | text t =>
      exact ⟨_, rfl, asKind_map_eq_ok (AnyNode.item ∘ ModuleItem.text) (textDeclarationOf_dump t)⟩
    | statement s =>
      have hkind : nodeKind s.kindName =
          (itemKind s.kindName).map fun read fs => .item <$> read fs := by
        cases s <;> rfl
      exact asKind_of_asAlternative (type_dumpStatement s) hkind (statement_dump_item s)
    | exportDeclaration place d =>
      have hi := item_dump (.exportDeclaration place d) rfl
      exact asKind_of_asAlternative (type_dumpItem (.exportDeclaration place d)) rfl hi
    | exportExpression place e =>
      have hi := item_dump (.exportExpression place e) rfl
      exact asKind_of_asAlternative (type_dumpItem (.exportExpression place e)) rfl hi
  | module m => exact ⟨_, rfl, asKind_map_eq_ok AnyNode.module (moduleOf_dump m h)⟩
  | script s => exact ⟨_, rfl, asKind_map_eq_ok AnyNode.script (scriptOf_dump s)⟩

/-- The kind of a node is no family of kinds. -/
theorem loadAs_kindName (n : AnyNode) (v : Value) :
    loadAs n.kindName v = (nodeKind n.kindName).map fun read => asKind read (.of v) := by
  cases n with
  | expression e => cases e <;> rfl
  | item i =>
    cases i with
    | statement s => cases s <;> rfl
    | _ => rfl
  | _ => rfl

theorem dumpItem_toItem (d : DefaultDeclaration) : dumpItem d.toItem = dumpDeclaration d := by
  cases d <;> rfl

/-- Whatever is read as a kind or as one of a family of kinds, its dump is read as that again. -/
theorem gives_loadAs {kind : String} {v : Value} {x : Checked AnyNode}
    (h : loadAs kind v = some x) : x.Gives fun n => loadAs kind (dumpNode n) = some (.ok n) := by
  unfold loadAs at h
  split at h
  case h_6 =>
    obtain ⟨read, hread, rfl⟩ := Option.map_eq_some_iff.mp h
    refine gives_asKind fun fs n hn => ?_
    obtain ⟨rfl, hreadable⟩ := gives_nodeKind hread n hn
    obtain ⟨again, hagain, hdump⟩ := node_dump n hreadable
    rw [loadAs_kindName, hagain, Option.map_some, hdump]
  all_goals cases h
  · exact Checked.gives_map fun e _ =>
      congrArg some (Checked.map_eq_ok AnyNode.expression (expression_dump e))
  · exact Checked.gives_map fun s _ =>
      congrArg some (Checked.map_eq_ok (AnyNode.item ∘ ModuleItem.statement) (statement_dump s))
  · refine Checked.gives_map fun d _ => ?_
    have hd := declaration_dump d
    rw [← dumpItem_toItem] at hd
    exact congrArg some (Checked.map_eq_ok (AnyNode.item ∘ DefaultDeclaration.toItem) hd)
  · exact Checked.gives_map fun i hi =>
      congrArg some (Checked.map_eq_ok AnyNode.item (item_dump i (gives_item _ i hi)))
  · refine gives_asAlternative fun kind read fs hkind => ?_
    unfold programKind at hkind
    split at hkind <;> cases hkind
    · refine Checked.gives_map fun m hm => congrArg some ?_
      apply asAlternative_of_dump "Module" (by simp [nodeFields]) rfl
      exact Checked.map_eq_ok AnyNode.module (moduleOf_dump m (gives_moduleOfFields m hm))
    · refine Checked.gives_map fun s _ => congrArg some ?_
      apply asAlternative_of_dump "Script" (by simp [nodeFields]) rfl
      exact Checked.map_eq_ok AnyNode.script (scriptOf_dump s)

/-- A node that is read from a value, as a kind or as one of a family of kinds, is dumped as a value
from which the same node is read, and which is the dump of what is read. -/
theorem loadAs_dumpNode (kind : String) (v : Value) (n : AnyNode)
    (h : loadAs kind v = some (.ok n)) :
    ∃ again, loadAs kind (dumpNode n) = some (.ok again) ∧ again = n ∧
      dumpNode again = dumpNode n :=
  ⟨n, gives_loadAs h n rfl, rfl, rfl⟩

/-- A module that is written in its own way: a span with numbers as text and as truth values, a field
that nothing knows, a truth value as a word, and fields that are missing. -/
def laxModule : Value :=
  .object [
    ("unknown", .null),
    ("span", .object [("start", .string " 0 "), ("end", .string "+1_0"), ("line", .bool true),
      ("column", .int 2)]),
    ("body", .array [
      .object [("type", .string "ExportDefaultDeclaration"),
        ("declaration", .object [("type", .string "FunctionDeclaration"),
          ("id", .object [("name", .string "Counter")]), ("is_async", .string "YES")])]])]

/-- The module that is read from it. -/
def laxModuleRead : Module where
  span := some ⟨0, 10, 1, 2⟩
  body := [.exportDeclaration {} (.function { name := some { name := "Counter" }, isAsync := true })]

theorem loadAs_dumpNode_laxModule :
    loadAs "Module" laxModule = some (.ok (.module laxModuleRead)) ∧
      ∃ again, loadAs "Module" (dumpNode (.module laxModuleRead)) = some (.ok again) ∧
        again = .module laxModuleRead ∧
        dumpNode again = dumpNode (.module laxModuleRead) := by
  have h : loadAs "Module" laxModule = some (.ok (.module laxModuleRead)) := by rfl
  exact ⟨h, loadAs_dumpNode "Module" laxModule (.module laxModuleRead) h⟩

end CustomElement.Interchange
