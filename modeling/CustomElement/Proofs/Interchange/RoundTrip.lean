-- SUMMARY: A node that is dumped and read again is the same node.
import CustomElement.Interchange.Dump
import CustomElement.Proofs.Interchange.Fields

/-! ## Nodes that are dumped and read again

A dump has all fields of its kind and nothing that reading would change: whole numbers and truth
values are dumped as such, and what is absent is dumped as `null`, which no node is dumped as. So
reading a dump gives back the node, kind by kind and from the inside out. -/

namespace CustomElement.Interchange

open Syntax Json

/-! ## Values that are not null -/

theorem isNull_dumpExpression (e : Expression) : isNull (dumpExpression e) = false := by
  cases e <;> rfl

theorem dumpOptional_eq (e : Option Expression) :
    dumpOptional e = (e.map dumpExpression).getD .null := by
  cases e <;> rfl

/-! ## Lists -/

theorem dumpExpressions_eq_map (es : List Expression) :
    dumpExpressions es = es.map dumpExpression := by
  induction es with
  | nil => rfl
  | cons e es ih => rw [dumpExpressions, ih, List.map_cons]

theorem dumpProperties_eq_map (ps : List Property) : dumpProperties ps = ps.map dumpProperty := by
  induction ps with
  | nil => rfl
  | cons p ps ih => rw [dumpProperties, ih, List.map_cons]

theorem dumpStatements_eq_map (ss : List Statement) :
    dumpStatements ss = ss.map dumpStatement := by
  induction ss with
  | nil => rfl
  | cons s ss ih => rw [dumpStatements, ih, List.map_cons]

theorem dumpConstructors_eq_map (cs : List Constructor) :
    dumpConstructors cs = cs.map dumpConstructor := by
  induction cs with
  | nil => rfl
  | cons c cs ih => rw [dumpConstructors, ih, List.map_cons]

/-! ## Spans, places and kinds -/

theorem asKind_dumpSpan (s : Span) : asKind spanOfFields (.of (dumpSpan s)) = .ok s := by
  simp [dumpSpan, Reading.of, Reading.ofFields, asKind, spanOfFields, Fields.required,
    find?_readFields, intOf, Value.asInt]

section

variable {α : Type} {fs : List (String × Value)}

theorem spanField_readFields {span : Option Span}
    (hspan : find? fs "span" = some ((span.map dumpSpan).getD .null)) :
    spanField (readFields fs) = .ok span :=
  Fields.optional_readFields dumpSpan span hspan (fun _ => rfl) asKind_dumpSpan

theorem requiredText_readFields {name : String} (text : String)
    (htext : find? fs name = some (.string text)) :
    Fields.required (readFields fs) name textOf = .ok text :=
  Fields.required_readFields htext rfl

theorem optionalText_readFields {name : String} (text : Option String)
    (htext : find? fs name = some (dumpText text)) :
    Fields.optional (readFields fs) name textOf = .ok text :=
  Fields.optional_readFields Value.string text htext (fun _ => rfl) fun _ => rfl

/-- The fields that every node has are read back, whatever fields of other names follow. -/
theorem nodeOf_dump {kind : String} (make : Option Span → α) (span : Option Span)
    (hspan : find? fs "span" = none) (htype : find? fs "type" = none) :
    nodeOf kind make (readFields (nodeFields span kind ++ fs)) = .ok (make span) := by
  have hmade : spanField (readFields (nodeFields span kind ++ fs)) = .ok span :=
    spanField_readFields (by simp [nodeFields, hspan])
  have hkind : Fields.kind (readFields (nodeFields span kind ++ fs)) kind = .ok () :=
    Fields.kind_readFields (by simp [nodeFields, htype])
  rw [nodeOf, hmade, hkind]
  rfl

theorem placeFields_readFields {place : Placement}
    (hspan : find? fs "span" = some ((place.span.map dumpSpan).getD .null))
    (htrivia : find? fs "leading_trivia" = some (dumpText place.leadingTrivia)) :
    placeFields (readFields fs) = .ok place := by
  rw [placeFields, spanField_readFields hspan, optionalText_readFields place.leadingTrivia htrivia]
  rfl

/-- The fields that every item has are read back, whatever fields of other names follow. -/
theorem itemOf_dump {kind : String} (make : Placement → α) (place : Placement)
    (hspan : find? fs "span" = none) (htrivia : find? fs "leading_trivia" = none)
    (htype : find? fs "type" = none) :
    itemOf kind make (readFields (itemFields place kind ++ fs)) = .ok (make place) := by
  have hplace : placeFields (readFields (itemFields place kind ++ fs)) = .ok place :=
    placeFields_readFields (by simp [itemFields, hspan]) (by simp [itemFields, htrivia])
  have hkind : Fields.kind (readFields (itemFields place kind ++ fs)) kind = .ok () :=
    Fields.kind_readFields (by simp [itemFields, htype])
  rw [itemOf, hplace, hkind]
  rfl

/-- The alternative that a dump names reads it. -/
theorem asAlternative_of_dump {choose : String → Option (Fields → Checked α)}
    {read : Fields → Checked α} {a : α} (kind : String) (htype : find? fs "type" = some (.string kind))
    (hchoose : choose kind = some read) (hread : read (readFields fs) = .ok a) :
    asAlternative choose (.of (.object fs)) = .ok a :=
  (asAlternative_eq_ok_iff (v := .object fs) htype).mpr ⟨read, hchoose, hread⟩

end

theorem identifierOf_dump (id : Identifier) : identifierOf (.of (dumpIdentifier id)) = .ok id := by
  show identifierOfFields (readFields _) = _
  rw [identifierOfFields, nodeOf_dump Identifier.mk id.span (by simp) (by simp),
    requiredText_readFields id.name (by simp)]
  rfl

/-! ## Expressions -/

mutual

/-- An expression is read back. -/
theorem expression_dump : ∀ e, (Reading.of (dumpExpression e)).expression = .ok e
  | .identifier id => by
    rw [Reading.expression_of]
    apply asAlternative_of_dump "Identifier" (by simp [nodeFields]) rfl
    exact Checked.map_eq_ok Expression.identifier (identifierOf_dump id)
  | .stringLiteral span value => by
    rw [Reading.expression_of]
    apply asAlternative_of_dump "StringLiteral" (by simp [nodeFields]) rfl
    rw [stringLiteralOfFields, nodeOf_dump _ span (by simp) (by simp),
      requiredText_readFields value (by simp)]
    rfl
  | .self span => by
    rw [Reading.expression_of]
    apply asAlternative_of_dump "ThisExpression" (by simp [nodeFields]) rfl
    show nodeOf _ Expression.self (readFields (nodeFields span _ ++ [])) = _
    exact nodeOf_dump Expression.self span rfl rfl
  | .raw span code => by
    rw [Reading.expression_of]
    apply asAlternative_of_dump "RawExpression" (by simp [nodeFields]) rfl
    rw [rawExpressionOfFields, nodeOf_dump _ span (by simp) (by simp),
      requiredText_readFields code (by simp)]
    rfl
  | .object span ps => by
    rw [Reading.expression_of]
    apply asAlternative_of_dump "ObjectExpression" (by simp [nodeFields]) rfl
    rw [objectOfFields, nodeOf_dump _ span (by simp) (by simp),
      Fields.list_readFields dumpProperty ps
        (by simp [dumpProperties_eq_map]) (properties_dump ps)]
    rfl
  | .member span object property => by
    rw [Reading.expression_of]
    apply asAlternative_of_dump "MemberExpression" (by simp [nodeFields]) rfl
    rw [memberOfFields, nodeOf_dump _ span (by simp) (by simp),
      Fields.required_readFields (by simp) (expression_dump object),
      Fields.required_readFields (by simp) (identifierOf_dump property)]
    rfl
  | .call span callee arguments => by
    rw [Reading.expression_of]
    apply asAlternative_of_dump "CallExpression" (by simp [nodeFields]) rfl
    rw [callOfFields, nodeOf_dump _ span (by simp) (by simp),
      Fields.required_readFields (by simp) (expression_dump callee),
      Fields.list_readFields dumpExpression arguments
        (by simp [dumpExpressions_eq_map]) (expressions_dump arguments)]
    rfl

/-- A property is read back. -/
theorem property_dump : ∀ p, (Reading.of (dumpProperty p)).property = .ok p
  | .mk span key value => by
    rw [Reading.property_of]
    show propertyOfFields (readFields _) = _
    rw [propertyOfFields, nodeOf_dump _ span (by simp) (by simp),
      Fields.required_readFields (by simp) (identifierOf_dump key),
      Fields.required_readFields (by simp) (expression_dump value)]
    rfl

/-- Expressions are read back. -/
theorem expressions_dump : ∀ es : List Expression, ∀ e ∈ es,
    (Reading.of (dumpExpression e)).expression = .ok e
  | [] => by simp
  | e :: es => List.forall_mem_cons.mpr ⟨expression_dump e, expressions_dump es⟩

/-- Properties are read back. -/
theorem properties_dump : ∀ ps : List Property, ∀ p ∈ ps,
    (Reading.of (dumpProperty p)).property = .ok p
  | [] => by simp
  | p :: ps => List.forall_mem_cons.mpr ⟨property_dump p, properties_dump ps⟩

end

/-! ## Statements and declarations -/

section

variable {fs : List (String × Value)}

theorem requiredName_readFields {name : String} (id : Identifier)
    (hid : find? fs name = some (dumpIdentifier id)) :
    Fields.required (readFields fs) name identifierOf = .ok id :=
  Fields.required_readFields hid (identifierOf_dump id)

theorem optionalExpression_readFields {name : String} (e : Option Expression)
    (he : find? fs name = some (dumpOptional e)) :
    Fields.optional (readFields fs) name (·.expression) = .ok e := by
  rw [dumpOptional_eq] at he
  exact Fields.optional_readFields dumpExpression e he isNull_dumpExpression expression_dump

theorem bool_readFields {name : String} {d : Bool} (b : Bool)
    (hb : find? fs name = some (.bool b)) :
    Fields.withDefault (readFields fs) name d boolOf = .ok b :=
  Fields.withDefault_readFields hb rfl

end


theorem functionOf_dump (f : Function) : asKind functionOfFields (.of (dumpFunction f)) = .ok f := by
  show functionOfFields (readFields _) = _
  rw [functionOfFields, itemOf_dump Function.mk f.place (by simp) (by simp) (by simp),
    Fields.optional_readFields dumpIdentifier f.name (by simp [dumpName]) (fun _ => rfl) identifierOf_dump,
    bool_readFields f.isAsync (by simp), bool_readFields f.isGenerator (by simp),
    optionalText_readFields f.typeParameters (by simp),
    Fields.withDefault_readFields (v := .string f.parameters) (a := f.parameters) (by simp) rfl,
    optionalText_readFields f.returnType (by simp),
    Fields.withDefault_readFields (v := .string f.body) (a := f.body) (by simp) rfl]
  rfl

mutual

/-- A statement is read back. -/
theorem statement_dump : ∀ s, (Reading.of (dumpStatement s)).statement = .ok s
  | .raw place code => by
    rw [Reading.statement_of]
    apply asAlternative_of_dump "RawStatement" (by simp [itemFields]) rfl
    rw [rawStatementOfFields, itemOf_dump _ place (by simp) (by simp) (by simp),
      requiredText_readFields code (by simp)]
    rfl
  | .binding place kind name value => by
    rw [Reading.statement_of]
    apply asAlternative_of_dump "VariableDeclaration" (by simp [itemFields]) rfl
    rw [bindingOfFields, itemOf_dump _ place (by simp) (by simp) (by simp),
      Fields.withDefault_readFields (v := .string kind.word) (a := kind) (by simp)
        (by cases kind <;> rfl),
      requiredName_readFields name (by simp), optionalExpression_readFields value (by simp)]
    rfl
  | .expression place value => by
    rw [Reading.statement_of]
    apply asAlternative_of_dump "ExpressionStatement" (by simp [itemFields]) rfl
    rw [expressionStatementOfFields, itemOf_dump _ place (by simp) (by simp) (by simp),
      Fields.required_readFields (by simp) (expression_dump value)]
    rfl
  | .function f => by
    rw [Reading.statement_of]
    apply asAlternative_of_dump "FunctionDeclaration" (by simp [itemFields]) rfl
    exact Checked.map_eq_ok Statement.function (functionOf_dump f)
  | .classDeclaration c => by
    rw [Reading.statement_of]
    have hc := Checked.map_eq_ok Statement.classDeclaration (classOf_dump c)
    cases c with
    | mk place name superClass cs =>
      exact asAlternative_of_dump "ClassDeclaration" (by simp [itemFields]) rfl hc

/-- A class is read back. -/
theorem classOf_dump : ∀ c, asKind classOfFields (.of (dumpClass c)) = .ok c
  | .mk place name superClass cs => by
    show classOfFields (readFields _) = _
    rw [classOfFields, itemOf_dump _ place (by simp) (by simp) (by simp),
      requiredName_readFields name (by simp), optionalExpression_readFields superClass (by simp),
      Fields.list_readFields dumpConstructor cs (by simp [dumpConstructors_eq_map])
        (constructors_dump cs)]
    rfl

/-- A constructor is read back. -/
theorem constructor_dump : ∀ c, (Reading.of (dumpConstructor c)).constructor = .ok c
  | .mk span parameters body => by
    rw [Reading.constructor_of]
    show constructorOfFields (readFields _) = _
    rw [constructorOfFields, nodeOf_dump _ span (by simp) (by simp),
      Fields.list_readFields dumpIdentifier parameters (by simp) fun id _ => identifierOf_dump id,
      Fields.list_readFields dumpStatement body (by simp [dumpStatements_eq_map])
        (statements_dump body)]
    rfl

/-- Constructors are read back. -/
theorem constructors_dump : ∀ cs : List Constructor, ∀ c ∈ cs,
    (Reading.of (dumpConstructor c)).constructor = .ok c
  | [] => by simp
  | c :: cs => List.forall_mem_cons.mpr ⟨constructor_dump c, constructors_dump cs⟩

/-- Statements are read back. -/
theorem statements_dump : ∀ ss : List Statement, ∀ s ∈ ss,
    (Reading.of (dumpStatement s)).statement = .ok s
  | [] => by simp
  | s :: ss => List.forall_mem_cons.mpr ⟨statement_dump s, statements_dump ss⟩

end

theorem textDeclarationOf_dump (t : TextDeclaration) :
    asKind textDeclarationOfFields (.of (dumpTextDeclaration t)) = .ok t := by
  show textDeclarationOfFields (readFields _) = _
  rw [textDeclarationOfFields,
    itemOf_dump TextDeclaration.mk t.place (by simp) (by simp) (by simp),
    requiredText_readFields t.kind (by simp), requiredText_readFields t.code (by simp)]
  rfl

/-- A declaration is read back. -/
theorem declaration_dump (d : DefaultDeclaration) :
    asAlternative declarationKind (.of (dumpDeclaration d)) = .ok d := by
  cases d with
  | function f =>
    apply asAlternative_of_dump "FunctionDeclaration" (by simp [itemFields]) rfl
    exact Checked.map_eq_ok DefaultDeclaration.function (functionOf_dump f)
  | classDeclaration c =>
    have hc := Checked.map_eq_ok DefaultDeclaration.classDeclaration (classOf_dump c)
    cases c with
    | mk place name superClass cs =>
      exact asAlternative_of_dump "ClassDeclaration" (by simp [itemFields]) rfl hc
  | text t =>
    apply asAlternative_of_dump "OpaqueDeclaration" (by simp [itemFields]) rfl
    exact Checked.map_eq_ok DefaultDeclaration.text (textDeclarationOf_dump t)

/-! ## The kinds that dumps name -/

theorem type_dumpExpression (e : Expression) :
    (dumpExpression e).field? "type" = some (.string e.kindName) := by
  cases e <;> simp [dumpExpression, dumpIdentifier, Value.field?, nodeFields, Expression.kindName]

theorem type_dumpStatement (s : Statement) :
    (dumpStatement s).field? "type" = some (.string s.kindName) := by
  cases s with
  | classDeclaration c =>
    cases c
    simp [dumpStatement, dumpClass, Value.field?, itemFields, Statement.kindName]
  | _ => simp [dumpStatement, dumpFunction, Value.field?, itemFields, Statement.kindName]

theorem type_dumpItem (i : ModuleItem) :
    (dumpItem i).field? "type" = some (.string i.kindName) := by
  cases i with
  | statement s => exact type_dumpStatement s
  | _ => simp [dumpItem, dumpTextDeclaration, Value.field?, itemFields, ModuleItem.kindName]

/-! ## Items and programs -/

/-- An item is of a kind that may stand in a module. -/
def MayStand (i : ModuleItem) : Prop := (itemKind i.kindName).isSome

theorem mayStand_statement (s : Statement) : MayStand (.statement s) := by
  cases s <;> exact rfl

/-- A declaration that is kept as text may not stand in a module by itself. -/
theorem mayStand_iff {i : ModuleItem} : MayStand i ↔ i.kindName ≠ "OpaqueDeclaration" := by
  cases i with
  | statement s =>
    refine iff_of_true (mayStand_statement s) ?_
    cases s <;> simp [ModuleItem.kindName, Statement.kindName]
  | text t => exact iff_of_false (by intro h; cases h) (by simp [ModuleItem.kindName])
  | exportDeclaration place d => exact iff_of_true rfl (by simp [ModuleItem.kindName])
  | exportExpression place e => exact iff_of_true rfl (by simp [ModuleItem.kindName])

/-- A statement is read back as an item, too. -/
theorem statement_dump_item (s : Statement) :
    asAlternative itemKind (.of (dumpStatement s)) = .ok (.statement s) := by
  have hkind : itemKind s.kindName =
      (statementKind s.kindName).map fun read fs => .statement <$> read fs := by
    cases s <;> rfl
  have hs := statement_dump s
  rw [Reading.statement_of] at hs
  exact (asAlternative_eq_ok_iff (type_dumpStatement s)).mpr
    (asKind_of_asAlternative (type_dumpStatement s) hkind hs)

/-- An item of a kind that may stand in a module is read back. -/
theorem item_dump (i : ModuleItem) (h : MayStand i) :
    asAlternative itemKind (.of (dumpItem i)) = .ok i := by
  cases i with
  | exportDeclaration place d =>
    apply asAlternative_of_dump "ExportDefaultDeclaration" (by simp [itemFields]) rfl
    rw [exportDeclarationOfFields, itemOf_dump _ place (by simp) (by simp) (by simp),
      Fields.required_readFields (by simp) (declaration_dump d)]
    rfl
  | exportExpression place e =>
    apply asAlternative_of_dump "ExportDefaultExpression" (by simp [itemFields]) rfl
    rw [exportExpressionOfFields, itemOf_dump _ place (by simp) (by simp) (by simp),
      Fields.required_readFields (by simp) (expression_dump e)]
    rfl
  | statement s => exact statement_dump_item s
  | text t => cases h

/-- A module whose items are of kinds that may stand in a module is read back. -/
theorem moduleOf_dump (m : Module) (h : ∀ i ∈ m.body, MayStand i) :
    asKind moduleOfFields (.of (dumpModule m)) = .ok m := by
  show moduleOfFields (readFields _) = _
  rw [moduleOfFields, nodeOf_dump _ m.span (by simp) (by simp),
    Fields.list_readFields dumpItem m.body (by simp) fun i hi => item_dump i (h i hi),
    optionalText_readFields m.trailingTrivia (by simp)]
  rfl

/-- A script is read back. -/
theorem scriptOf_dump (s : Script) : asKind scriptOfFields (.of (dumpScript s)) = .ok s := by
  show scriptOfFields (readFields _) = _
  rw [scriptOfFields, nodeOf_dump _ s.span (by simp) (by simp),
    Fields.list_readFields dumpStatement s.body (by simp) fun t _ => statement_dump t,
    optionalText_readFields s.trailingTrivia (by simp)]
  rfl

end CustomElement.Interchange
