-- SUMMARY: What each way of reading a field gives on the fields of an object.
import CustomElement.Interchange.Load
import CustomElement.Proofs.Json.Checked

/-! ## Fields of objects

Every field is read in one of five ways: it must be there, it has a default, it may be `null`, it
holds a list, or it names the kind. Each way has one equation for the fields of an object, from
what the field holds and what that is read as. The alternatives of a position are told apart by the
kind that an object names. -/

namespace CustomElement.Interchange

open Syntax Json

/-! ## Readings of values -/

@[simp] theorem Reading.value_of (v : Value) : (Reading.of v).value = v := by
  cases v <;> rfl

theorem Reading.expression_of (v : Value) :
    (Reading.of v).expression = asAlternative expressionKind (.of v) := by
  cases v <;> rfl

theorem Reading.property_of (v : Value) :
    (Reading.of v).property = asKind propertyOfFields (.of v) := by
  cases v <;> rfl

theorem Reading.statement_of (v : Value) :
    (Reading.of v).statement = asAlternative statementKind (.of v) := by
  cases v <;> rfl

theorem Reading.constructor_of (v : Value) :
    (Reading.of v).constructor = asKind constructorOfFields (.of v) := by
  cases v <;> rfl

theorem readItems_eq_map (vs : List Value) : readItems vs = vs.map Reading.of := by
  induction vs with
  | nil => rfl
  | cons v vs ih => rw [readItems, ih, List.map_cons]

theorem readFields_eq_map (fs : List (String × Value)) :
    readFields fs = fs.map fun f => (f.1, Reading.of f.2) := by
  induction fs with
  | nil => rfl
  | cons f fs ih =>
    obtain ⟨name, v⟩ := f
    rw [readFields, ih, List.map_cons]

/-- A field of the readings is the reading of the field. -/
theorem find?_readFields (fs : List (String × Value)) (name : String) :
    find? (readFields fs) name = (find? fs name).map Reading.of := by
  rw [readFields_eq_map, find?_map]

/-! ## Single fields -/

namespace Fields

variable {α : Type} {fs : List (String × Value)} {name : String} {read : Reading → Checked α}
  {v : Value} {a : α}

theorem required_readFields (hv : find? fs name = some v) (hread : read (.of v) = .ok a) :
    required (readFields fs) name read = .ok a := by
  simp only [required, find?_readFields, hv, Option.map_some, hread, Checked.within_ok]

theorem withDefault_readFields {d : α} (hv : find? fs name = some v)
    (hread : read (.of v) = .ok a) : withDefault (readFields fs) name d read = .ok a := by
  simp only [withDefault, find?_readFields, hv, Option.map_some, hread, Checked.within_ok]

/-- A field that holds `null` or what something is written as, which is never `null`. -/
theorem optional_readFields (write : α → Value) (o : Option α)
    (hv : find? fs name = some ((o.map write).getD .null))
    (hnull : ∀ a, isNull (write a) = false) (hread : ∀ a, read (.of (write a)) = .ok a) :
    optional (readFields fs) name read = .ok o := by
  apply withDefault_readFields hv
  cases o with
  | none => rfl
  | some a => simp [hnull, hread]

/-- A field that holds the list of what things are written as. -/
theorem list_readFields (write : α → Value) (as : List α)
    (hv : find? fs name = some (.array (as.map write)))
    (hread : ∀ a ∈ as, read (.of (write a)) = .ok a) :
    list (readFields fs) name read = .ok as := by
  apply withDefault_readFields hv
  have hitems : (readItems (as.map write)).map read = as.map .ok := by
    rw [readItems_eq_map, List.map_map, List.map_map]
    exact List.map_congr_left hread
  simp only [Reading.of, hitems, Checked.all_map_ok]

theorem kind_readFields (hv : find? fs "type" = some (.string name)) :
    kind (readFields fs) name = .ok () := by
  apply withDefault_readFields hv
  simp [Value.asWord]

/-! ### What fields give -/

variable {rs : Fields} {P : α → Prop}

theorem gives_withDefault {d : α} (hd : P d) (hread : ∀ r, (read r).Gives P) :
    (rs.withDefault name d read).Gives P := by
  rw [withDefault]
  split
  · exact Checked.gives_within (hread _)
  · intro a ha
    cases ha
    exact hd

/-- What a list field gives was read in the position of its items. -/
theorem gives_list (hread : ∀ r, (read r).Gives P) :
    (rs.list name read).Gives fun as => ∀ a ∈ as, P a := by
  refine gives_withDefault (fun _ h => nomatch h) ?_
  intro r
  cases r.value with
  | array =>
    apply Checked.gives_all
    intro x hx
    obtain ⟨item, _, rfl⟩ := List.mem_map.mp hx
    exact hread item
  | _ =>
    intro as has
    cases has

end Fields

/-! ## Kinds and alternatives -/

variable {α : Type} {choose : String → Option (Fields → Checked α)} {read : Fields → Checked α}
  {kind : String} {a : α}

/-- An object is read as the alternative that it names. -/
theorem asAlternative_eq_ok_iff {v : Value} (htype : v.field? "type" = some (.string kind)) :
    asAlternative choose (.of v) = .ok a ↔
      ∃ read, choose kind = some read ∧ asKind read (.of v) = .ok a := by
  cases v with
  | object fs =>
    have hfield : find? (readFields fs) "type" = some (.of (.string kind)) := by
      rw [find?_readFields, show find? fs "type" = some (.string kind) from htype, Option.map_some]
    simp only [asAlternative, asKind, Reading.of, Reading.ofFields, byKind, hfield]
    cases hchoose : choose kind with
    | none => simp [Checked.fail]
    | some read => simp [Checked.within_eq_ok_iff]
  | _ => cases htype

theorem asKind_map_eq_ok {β : Type} (f : α → β) {r : Reading} (h : asKind read r = .ok a) :
    asKind (fun fs => f <$> read fs) r = .ok (f a) := by
  unfold asKind at *
  split at *
  · exact Checked.map_eq_ok f h
  · cases h

/-- What is read as one of some alternatives is read as one of others that go back to them. -/
theorem asKind_of_asAlternative {β : Type} {into : String → Option (Fields → Checked β)} {f : α → β}
    {v : Value} (htype : v.field? "type" = some (.string kind))
    (hinto : into kind = (choose kind).map fun read fs => f <$> read fs)
    (h : asAlternative choose (.of v) = .ok a) :
    ∃ read, into kind = some read ∧ asKind read (.of v) = .ok (f a) := by
  obtain ⟨read, hread, ha⟩ := (asAlternative_eq_ok_iff htype).mp h
  refine ⟨fun fs => f <$> read fs, ?_, asKind_map_eq_ok f ha⟩
  rw [hinto, hread, Option.map_some]

/-! ### What kinds and alternatives give -/

variable {P : α → Prop} {r : Reading} {fs : Fields}

theorem gives_asKind (hread : ∀ fs, (read fs).Gives P) : (asKind read r).Gives P := by
  unfold asKind
  split
  · exact hread _
  · intro a ha
    cases ha

/-- What is read as an alternative is read as some kind. -/
theorem gives_asAlternative
    (hread : ∀ kind read fs, choose kind = some read → (read fs).Gives P) :
    (asAlternative choose r).Gives P := by
  intro a ha
  rw [asAlternative] at ha
  split at ha
  · rw [byKind] at ha
    split at ha
    · cases ha
    · split at ha
      · split at ha
        · next hchoose => exact hread _ _ _ hchoose a (Checked.within_eq_ok_iff.mp ha)
        · cases ha
      · cases ha
  · cases ha

/-- A node of a kind is made for some span. -/
theorem gives_nodeOf {make : Option Span → α} (h : ∀ span, P (make span)) :
    (nodeOf kind make fs).Gives P :=
  .seq (Checked.gives_map fun span _ _ => h span) _

/-- An item of a kind is made for some place. -/
theorem gives_itemOf {make : Placement → α} (h : ∀ place, P (make place)) :
    (itemOf kind make fs).Gives P :=
  .seq (Checked.gives_map fun place _ _ => h place) _

end CustomElement.Interchange
