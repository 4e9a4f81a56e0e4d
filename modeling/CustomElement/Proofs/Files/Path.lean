-- SUMMARY: Paths that lead on by a name: joining a name to a path, and taking the last name off.
import Mathlib.Data.List.Basic
import Mathlib.Data.List.Induction
import Mathlib.Data.List.TakeWhile
import CustomElement.Files.Disk

/-! ## Paths and names

A path leads on from another one by a name if the name stands behind it and slashes between them.
Joining makes such paths and splitting takes them apart, so that what holds of a path that leads on
holds of both. -/

namespace CustomElement.Files

/-! ## Components -/

theorem componentsOf_ne_nil (cs : List Char) : componentsOf cs ≠ [] := by
  cases cs with
  | nil => simp [componentsOf]
  | cons c cs =>
    simp only [componentsOf]
    split
    · simp
    · split <;> simp

/-- A text without slashes is one component. -/
theorem componentsOf_eq_singleton {cs : List Char} (h : '/' ∉ cs) : componentsOf cs = [cs] := by
  induction cs with
  | nil => rfl
  | cons c cs ih =>
    simp only [List.mem_cons, not_or] at h
    rw [componentsOf, if_neg (Ne.symm h.1), ih h.2]

/-- Components are counted anew behind a slash. -/
theorem componentsOf_append_slash (a b : List Char) :
    componentsOf (a ++ '/' :: b) = componentsOf a ++ componentsOf b := by
  induction a with
  | nil => simp [componentsOf]
  | cons c a ih =>
    obtain ⟨first, rest, hfirst⟩ := List.exists_cons_of_ne_nil (componentsOf_ne_nil a)
    rw [List.cons_append]
    simp only [componentsOf, ih]
    split
    · rfl
    · simp [hfirst]

/-- Slashes in a row have nothing between them. -/
theorem componentsOf_replicate_append (k : Nat) (b : List Char) :
    componentsOf (List.replicate k '/' ++ b) = List.replicate k [] ++ componentsOf b := by
  induction k with
  | zero => rfl
  | succ k ih => simp [List.replicate_succ, componentsOf, ih]

theorem componentsOf_append_replicate (a : List Char) (k : Nat) :
    componentsOf (a ++ List.replicate k '/') = componentsOf a ++ List.replicate k [] := by
  cases k with
  | zero => simp
  | succ k =>
    have hslashes := componentsOf_replicate_append k []
    rw [List.append_nil] at hslashes
    rw [List.replicate_succ, componentsOf_append_slash, hslashes, componentsOf,
      ← List.replicate_succ', List.replicate_succ]

theorem components_ne_nil (path : String) : components path ≠ [] := by
  simp [components, componentsOf_ne_nil]

/-! ## Names -/

/-- May an entry of a directory have this name? -/
structure IsName (name : String) : Prop where
  ne_empty : name ≠ ""
  ne_here : name ≠ "."
  ne_above : name ≠ ".."
  noSlash : '/' ∉ name.toList
  noZero : '\x00' ∉ name.toList
  short : name.utf8ByteSize ≤ Disk.maxName

instance (name : String) : Decidable (IsName name) :=
  decidable_of_iff (name ≠ "" ∧ name ≠ "." ∧ name ≠ ".." ∧ '/' ∉ name.toList ∧
      '\x00' ∉ name.toList ∧ name.utf8ByteSize ≤ Disk.maxName)
    ⟨fun ⟨h₁, h₂, h₃, h₄, h₅, h₆⟩ => ⟨h₁, h₂, h₃, h₄, h₅, h₆⟩,
      fun h => ⟨h.ne_empty, h.ne_here, h.ne_above, h.noSlash, h.noZero, h.short⟩⟩

theorem isName_buildDirectory : IsName "__fluxel_build__" := by decide +kernel

/-! ## Leading on -/

/-- A path leads on from another one by a last component. -/
structure LeadsOn (p name path : String) : Prop where
  ne_empty : p ≠ ""
  noSlash : '/' ∉ name.toList
  spelled : ∃ k, path.toList = p.toList ++ List.replicate k '/' ++ name.toList ∧
    (k = 0 → p.toList.getLast? = some '/')

variable {p name path : String}

namespace LeadsOn

/-- Up to empty ones, the components are those of the path before and one more. -/
theorem exists_components (h : LeadsOn p name path) : ∃ cs k m,
    components p = cs ++ List.replicate k "" ∧
      components path = cs ++ List.replicate m "" ++ [name] := by
  obtain ⟨k, hpath, hlast⟩ := h.spelled
  have hname : componentsOf name.toList = [name.toList] := componentsOf_eq_singleton h.noSlash
  cases k with
  | zero =>
    -- the slash between them is the last character of the path before
    obtain ⟨before, hp⟩ := List.getLast?_eq_some_iff.mp (hlast rfl)
    refine ⟨(componentsOf before).map String.ofList, 1, 0, ?_, ?_⟩
    · have := componentsOf_append_slash before []
      simp [components, hp, this, componentsOf]
    · simp [components, hpath, hp, componentsOf_append_slash, hname]
  | succ k =>
    refine ⟨components p, 0, k, by simp, ?_⟩
    rw [List.replicate_succ, List.append_assoc, List.cons_append] at hpath
    simp [components, hpath, componentsOf_append_slash, componentsOf_replicate_append, hname]

theorem ne_nil (h : LeadsOn p name path) : p.toList ≠ [] := by
  simpa using h.ne_empty

theorem toList_prefix (h : LeadsOn p name path) : p.toList <+: path.toList := by
  obtain ⟨k, hpath, _⟩ := h.spelled
  exact ⟨List.replicate k '/' ++ name.toList, by rw [hpath, List.append_assoc]⟩

theorem path_ne_empty (h : LeadsOn p name path) : path ≠ "" := by
  rintro rfl
  exact h.ne_nil (List.prefix_nil.mp h.toList_prefix)

/-- It begins where the path before begins. -/
theorem isAbsolute_eq (h : LeadsOn p name path) : isAbsolute path = isAbsolute p := by
  obtain ⟨c, cs, hp⟩ := List.exists_cons_of_ne_nil h.ne_nil
  obtain ⟨rest, hpath⟩ := h.toList_prefix
  rw [isAbsolute, isAbsolute, ← hpath, hp]
  rfl

/-- What is no slash stands in one of its two parts. -/
theorem mem_toList_iff (h : LeadsOn p name path) {c : Char} (hc : c ≠ '/') :
    c ∈ path.toList ↔ c ∈ p.toList ∨ c ∈ name.toList := by
  obtain ⟨k, hpath, _⟩ := h.spelled
  simp [hpath, List.mem_replicate, hc]

theorem mem_components (h : LeadsOn p name path) {c : String} (hc : c ≠ "") :
    c ∈ components path ↔ c ∈ components p ∨ c = name := by
  obtain ⟨cs, k, m, hp, hpath⟩ := h.exists_components
  simp [hp, hpath, List.mem_replicate, hc]

end LeadsOn

/-! ## Joining -/

theorem isAbsolute_name (h : IsName name) : isAbsolute name = false := by
  rw [isAbsolute, beq_eq_false_iff_ne]
  intro hhead
  exact h.noSlash (List.mem_of_head? hhead)

theorem components_of_isName (h : IsName name) : components name = [name] := by
  rw [components, componentsOf_eq_singleton h.noSlash]
  simp

theorem join_empty (h : IsName name) : join "" name = name := by
  simp [join, isAbsolute_name h]

/-- Joining a name leads on by it. -/
theorem leadsOn_join (hp : p ≠ "") (h : IsName name) : LeadsOn p name (join p name) := by
  refine ⟨hp, h.noSlash, ?_⟩
  by_cases hlast : p.toList.getLast? = some '/'
  · exact ⟨0, by simp [join, isAbsolute_name h, hlast], fun _ => hlast⟩
  · exact ⟨1, by simp [join, isAbsolute_name h, hlast, hp], by simp⟩

/-- A path below another one, through names one after the other. -/
def joinAll (p : String) (names : List String) : String := names.foldl join p

@[simp] theorem joinAll_nil : joinAll p [] = p := rfl

@[simp] theorem joinAll_cons {names : List String} :
    joinAll p (name :: names) = joinAll (join p name) names := rfl

theorem joinAll_append {xs ys : List String} :
    joinAll p (xs ++ ys) = joinAll (joinAll p xs) ys := List.foldl_append

/-- Joining a name ends in a character of the name. -/
theorem getLast?_join (h : IsName name) : (join p name).toList.getLast? = name.toList.getLast? := by
  have hne : name.toList ≠ [] := by simpa using h.ne_empty
  have happend (cs : List Char) : (cs ++ name.toList).getLast? = name.toList.getLast? :=
    List.getLast?_append_of_ne_nil cs hne
  simp only [join, isAbsolute_name h, Bool.false_eq_true, if_false]
  split
  · rw [String.toList_append, happend]
  · rw [String.toList_append, happend]

theorem getLast?_join_ne_slash (h : IsName name) : (join p name).toList.getLast? ≠ some '/' := by
  rw [getLast?_join h]
  intro hlast
  exact h.noSlash (List.mem_of_getLast? hlast)

theorem join_ne_empty (h : IsName name) : join p name ≠ "" := by
  intro hempty
  have hlast := getLast?_join (p := p) h
  rw [hempty, String.toList_empty, List.getLast?_nil, eq_comm, List.getLast?_eq_none_iff] at hlast
  exact h.ne_empty (String.toList_eq_nil_iff.mp hlast)

/-- Below a directory that is named nothing is without a path. -/
theorem join_ne_empty_of_directory (hp : p ≠ "") (q : String) : join p q ≠ "" := by
  unfold join
  split
  · next habsolute =>
    rintro rfl
    cases habsolute
  · split
    · exact fun hempty => hp (String.append_eq_empty_iff.mp hempty).1
    · rw [String.append_assoc]
      exact fun hempty => hp (String.append_eq_empty_iff.mp hempty).1

theorem isAbsolute_join (hp : isAbsolute p = false) (h : IsName name) :
    isAbsolute (join p name) = false := by
  by_cases hempty : p = ""
  · rw [hempty, join_empty h, isAbsolute_name h]
  · rw [(leadsOn_join hempty h).isAbsolute_eq, hp]

theorem isAbsolute_joinAll {names : List String} (hp : isAbsolute p = false)
    (h : ∀ n ∈ names, IsName n) : isAbsolute (joinAll p names) = false := by
  induction names generalizing p with
  | nil => exact hp
  | cons n names ih =>
    rw [List.forall_mem_cons] at h
    exact ih (isAbsolute_join hp h.1) h.2

/-- Two paths below one another are joined by a slash, where none is there. -/
theorem join_of_relative {a b : String} (ha : a ≠ "") (hlast : a.toList.getLast? ≠ some '/')
    (hb : isAbsolute b = false) : join a b = a ++ "/" ++ b := by
  simp [join, hb, ha, hlast]

/-- Behind a name the next one is joined by a slash. -/
theorem joinAll_concat {names : List String} {m n : String} (hm : IsName m) (hn : IsName n) :
    joinAll p (names ++ [m] ++ [n]) = joinAll p (names ++ [m]) ++ "/" ++ n := by
  have hsofar : joinAll p (names ++ [m]) = join (joinAll p names) m := by
    rw [joinAll_append, joinAll_cons, joinAll_nil]
  rw [joinAll_append, joinAll_cons, joinAll_nil, hsofar]
  exact join_of_relative (join_ne_empty hm) (getLast?_join_ne_slash hm) (isAbsolute_name hn)

/-- Names below an output directory may be joined among themselves before. -/
theorem join_joinAll {output : String} {names : List String} (hne : names ≠ [])
    (h : ∀ n ∈ names, IsName n) : join output (joinAll "" names) = joinAll output names := by
  induction names using List.reverseRecOn with
  | nil => exact absurd rfl hne
  | append_singleton names n ih =>
    have hwhole := isAbsolute_joinAll (p := "") rfl h
    simp only [List.forall_mem_append, List.forall_mem_singleton] at h
    obtain ⟨hnames, hn⟩ := h
    rcases names.eq_nil_or_concat' with rfl | ⟨before, m, rfl⟩
    · rw [List.nil_append, joinAll_cons, joinAll_nil, joinAll_cons, joinAll_nil, join_empty hn]
    · have hm : IsName m := hnames m (by simp)
      have hrelative := isAbsolute_joinAll (p := "") rfl hnames
      rw [joinAll_concat hm hn] at hwhole ⊢
      rw [joinAll_concat hm hn, ← ih (by simp) hnames]
      simp only [join, hrelative, hwhole, Bool.false_eq_true, if_false]
      split
      · simp [String.append_assoc]
      · simp [String.append_assoc]

/-- Names that are joined among themselves are the components of the path. -/
theorem components_joinAll {names : List String} (hne : names ≠ [])
    (h : ∀ n ∈ names, IsName n) : components (joinAll "" names) = names := by
  induction names using List.reverseRecOn with
  | nil => exact absurd rfl hne
  | append_singleton names n ih =>
    simp only [List.forall_mem_append, List.forall_mem_singleton] at h
    obtain ⟨hnames, hn⟩ := h
    rcases names.eq_nil_or_concat' with rfl | ⟨before, m, rfl⟩
    · rw [List.nil_append, joinAll_cons, joinAll_nil, join_empty hn, components_of_isName hn]
    · have hbefore := ih (by simp) hnames
      have hname := components_of_isName hn
      have hslash : "/".toList = ['/'] := rfl
      simp only [components] at hbefore hname ⊢
      rw [joinAll_concat (hnames m (by simp)) hn, String.append_assoc, String.toList_append,
        String.toList_append, hslash, List.singleton_append, componentsOf_append_slash,
        List.map_append, hbefore, hname]

/-! ## Taking the last name off -/

/-- Only slashes are taken off the end. -/
theorem exists_append_slashes (cs : List Char) :
    ∃ k, cs = (cs.reverse.dropWhile (· = '/')).reverse ++ List.replicate k '/' := by
  have hends : cs.reverse.takeWhile (· = '/') =
      List.replicate (cs.reverse.takeWhile (· = '/')).length '/' := by
    rw [List.eq_replicate_iff]
    exact ⟨rfl, fun c hc => by simpa using List.mem_takeWhile_imp hc⟩
  have hsplit := congrArg List.reverse
    (List.takeWhile_append_dropWhile (p := fun c => decide (c = '/')) (l := cs.reverse))
  rw [List.reverse_reverse, List.reverse_append, hends, List.reverse_replicate] at hsplit
  exact ⟨_, hsplit.symm⟩

theorem exists_withoutSlashes (cs : List Char) :
    ∃ k, cs = withoutSlashes cs ++ List.replicate k '/' := by
  rw [withoutSlashes]
  split
  · exact ⟨0, by simp⟩
  · exact exists_append_slashes cs

theorem noSlash_baseName (path : String) : '/' ∉ (baseName path).toList := by
  intro hslash
  rw [baseName, String.toList_ofList, List.mem_reverse] at hslash
  simpa using List.mem_takeWhile_imp hslash

/-- What stands before the last component is nothing or ends in a slash. -/
theorem exists_before_baseName (path : String) : ∃ before,
    (path.toList.reverse.dropWhile (· ≠ '/')).reverse = before ∧
      path.toList = before ++ (baseName path).toList ∧
      (before ≠ [] → before.getLast? = some '/') := by
  refine ⟨_, rfl, ?_, fun hne => ?_⟩
  · rw [baseName, String.toList_ofList, ← List.reverse_append, List.takeWhile_append_dropWhile,
      List.reverse_reverse]
  · have hdrop : path.toList.reverse.dropWhile (· ≠ '/') ≠ [] := by simpa using hne
    have hhead := List.head_dropWhile_not (fun c => decide (c ≠ '/')) hdrop
    rw [List.getLast?_reverse, List.head?_eq_some_head hdrop]
    simpa using hhead

theorem components_eq_concat_baseName (path : String) :
    ∃ cs, components path = cs ++ [baseName path] := by
  have hname := componentsOf_eq_singleton (noSlash_baseName path)
  obtain ⟨before, _, hpath, hlast⟩ := exists_before_baseName path
  rw [components, hpath]
  by_cases hbefore : before = []
  · exact ⟨[], by simp [hbefore, hname]⟩
  · obtain ⟨cs, rfl⟩ := List.getLast?_eq_some_iff.mp (hlast hbefore)
    refine ⟨(componentsOf cs).map String.ofList, ?_⟩
    rw [List.append_assoc, List.singleton_append, componentsOf_append_slash, hname]
    simp

/-- Where nothing stands before the last component, it is the path. -/
theorem baseName_of_parent (h : parent path = "") : baseName path = path := by
  obtain ⟨before, hbefore, hpath, _⟩ := exists_before_baseName path
  obtain ⟨k, hk⟩ := exists_withoutSlashes before
  have hnone : withoutSlashes before = [] := by
    rw [parent, hbefore, String.ofList_eq_empty_iff] at h
    exact h
  rw [hnone, List.nil_append] at hk
  rw [withoutSlashes, if_pos (by simp [hk])] at hnone
  rw [hnone, List.nil_append, String.toList_inj] at hpath
  exact hpath.symm

/-- A path leads on from what stands before its last component. -/
theorem leadsOn_parent (h : parent path ≠ "") : LeadsOn (parent path) (baseName path) path := by
  obtain ⟨before, hbefore, hpath, hlast⟩ := exists_before_baseName path
  obtain ⟨k, hk⟩ := exists_withoutSlashes before
  have hparent : (parent path).toList = withoutSlashes before := by
    rw [parent, String.toList_ofList, hbefore]
  refine ⟨h, noSlash_baseName path, k, ?_, ?_⟩
  · rw [hparent, ← hk, hpath]
  · rintro rfl
    rw [List.replicate_zero, List.append_nil] at hk
    rw [hparent, ← hk]
    refine hlast fun hnil => h ?_
    rw [← String.toList_eq_nil_iff, hparent, ← hk, hnil]

theorem parent_empty : parent "" = "" := rfl

/-- What a path shares with the path before its last component, it shares with the directory that
holds it, however many slashes it ends in. -/
theorem splitPath_of_parent {P : String → Prop} (hpath : P path)
    (hparent : ∀ q, P q → parent q ≠ "" → P (parent q)) (hne : (Disk.splitPath path).1 ≠ "") :
    P (Disk.splitPath path).1 := by
  unfold Disk.splitPath at hne ⊢
  split
  · next hbase =>
    rw [if_pos hbase] at hne
    have hone : parent path ≠ "" := by
      intro hempty
      rw [hempty, parent_empty] at hne
      exact hne rfl
    exact hparent _ (hparent _ hpath hone) hne
  · next hbase =>
    rw [if_neg hbase] at hne
    exact hparent _ hpath hne

end CustomElement.Files
