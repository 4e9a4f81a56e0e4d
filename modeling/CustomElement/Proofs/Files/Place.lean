-- SUMMARY: What stands at the places of a disk, and where paths lead in terms of it.
import Mathlib.Data.List.Basic
import CustomElement.Proofs.Files.Path

/-! ## Places

At each place of a disk there is a file, a directory or nothing. Where a path leads and what is read
there depends on that alone: not on how directories list their entries. -/

namespace CustomElement.Files

open Text (Bytes)

/-- What is at a place, whatever stands below it. -/
inductive Shape where
  | file (content : Bytes)
  | directory
  deriving DecidableEq, Repr

/-! ## Entries -/

namespace Entry

/-- What an entry is, whatever stands below it. -/
def shape : Entry → Shape
  | file content => .file content
  | directory _ => .directory

@[simp] theorem shape_file {content : Bytes} : (file content).shape = .file content := rfl

@[simp] theorem shape_directory {es : List (String × Entry)} :
    (directory es).shape = .directory := rfl

theorem shape_eq_directory_iff {e : Entry} : e.shape = .directory ↔ ∃ es, e = directory es := by
  cases e <;> simp [shape]

theorem shape_eq_file_iff {e : Entry} {content : Bytes} :
    e.shape = .file content ↔ e = file content := by
  cases e <;> simp [shape]

@[simp] theorem at?_nil (e : Entry) : e.at? [] = some e := by cases e <;> rfl

@[simp] theorem at?_file_cons {content : Bytes} {name : String} {rest : Location} :
    (file content).at? (name :: rest) = none := rfl

@[simp] theorem at?_directory_cons {es : List (String × Entry)} {name : String} {rest : Location} :
    (directory es).at? (name :: rest) = (named? es name).bind fun e => e.at? rest := rfl

/-- A place below a place is looked up from there. -/
theorem at?_append (e : Entry) (a b : Location) :
    e.at? (a ++ b) = (e.at? a).bind fun x => x.at? b := by
  induction a generalizing e with
  | nil => simp
  | cons name a ih =>
    cases e with
    | file _ => rfl
    | directory es =>
      rw [List.cons_append, at?_directory_cons, at?_directory_cons]
      cases named? es name with
      | none => rfl
      | some x => exact ih x

/-- What is at a place below an entry. -/
def shape? (e : Entry) (l : Location) : Option Shape := (e.at? l).map shape

theorem shape?_append {e x : Entry} {a : Location} (h : e.at? a = some x) (b : Location) :
    e.shape? (a ++ b) = x.shape? b := by
  rw [shape?, at?_append, h]
  rfl

/-! ### Putting -/

theorem named?_putNamed (name other : String) (new : Entry) (es : List (String × Entry)) :
    named? (putNamed name new es) other = if other = name then some new else named? es other := by
  induction es with
  | nil =>
    by_cases h : other = name
    · simp [putNamed, named?, h]
    · simp [putNamed, named?, h, Ne.symm h]
  | cons entry es ih =>
    obtain ⟨n, e⟩ := entry
    simp only [named?] at ih
    by_cases hn : n = name
    · by_cases h : other = name
      · simp [putNamed, named?, hn, h]
      · simp [putNamed, named?, hn, h, Ne.symm h]
    · by_cases h : other = name
      · subst h
        simpa [putNamed, named?, hn] using ih
      · by_cases ho : n = other
        · simp [putNamed, named?, ho, h]
        · simpa [putNamed, named?, hn, ho, h] using ih

theorem putNamed_self {name : String} {e : Entry} {es : List (String × Entry)}
    (h : named? es name = some e) : putNamed name e es = es := by
  induction es with
  | nil => cases h
  | cons entry es ih =>
    obtain ⟨n, x⟩ := entry
    by_cases hn : n = name
    · have hx : x = e := by simpa [named?, hn] using h
      simp [putNamed, hn, hx]
    · have hrest : named? es name = some e := by simpa [named?, hn] using h
      simp [putNamed, hn, ih hrest]

@[simp] theorem put_nil (e new : Entry) : e.put [] new = new := by cases e <;> rfl

@[simp] theorem put_directory_cons {es : List (String × Entry)} {name : String} {rest : Location}
    {new : Entry} : (directory es).put (name :: rest) new =
      directory (putNamed name (((named? es name).getD (directory [])).put rest new) es) := rfl

/-- Putting back what is at a place changes nothing. -/
theorem put_self {e x : Entry} {l : Location} (h : e.at? l = some x) : e.put l x = e := by
  induction l generalizing e with
  | nil => simpa using h.symm
  | cons name l ih =>
    cases e with
    | file _ => rfl
    | directory es =>
      rw [at?_directory_cons, Option.bind_eq_some_iff] at h
      obtain ⟨child, hchild, hl⟩ := h
      rw [put_directory_cons, hchild, Option.getD_some, ih hl, putNamed_self hchild]

/-- What is put into a directory is seen at its place and below; all other places are as they
were. -/
theorem shape?_put {e new : Entry} {es : List (String × Entry)} {a : Location}
    (h : e.at? a = some (directory es)) (name : String) (l : Location) :
    (e.put (a ++ [name]) new).shape? l =
      if a ++ [name] <+: l then new.shape? (l.drop (a.length + 1)) else e.shape? l := by
  induction a generalizing e l with
  | nil =>
    obtain rfl : e = directory es := by simpa using h
    cases l with
    | nil => simp [shape?]
    | cons first l =>
      simp only [List.nil_append, put_directory_cons, put_nil, shape?, at?_directory_cons,
        named?_putNamed, List.prefix_cons_iff, List.cons.injEq]
      by_cases hfirst : first = name
      · simp [hfirst]
      · simp [hfirst, Ne.symm hfirst]
  | cons top a ih =>
    cases e with
    | file _ => cases h
    | directory fs =>
      rw [at?_directory_cons, Option.bind_eq_some_iff] at h
      obtain ⟨child, hchild, ha⟩ := h
      cases l with
      | nil => simp [shape?]
      | cons first l =>
        by_cases hfirst : first = top
        · subst hfirst
          have := ih ha l
          simp only [shape?] at this
          simp [shape?, hchild, named?_putNamed, List.cons_prefix_cons, this]
        · simp [shape?, hchild, named?_putNamed, List.cons_prefix_cons, hfirst, Ne.symm hfirst]

end Entry

/-! ## Disks -/

namespace Disk

variable {d : Disk} {place l : Location} {name path p : String} {names cs : List String}

/-- What is at a place of a disk. -/
def shapeAt (d : Disk) (l : Location) : Option Shape := d.root.shape? l

/-- The content of the file at a place, if a file is there. -/
def fileAt (d : Disk) (l : Location) : Option Bytes :=
  match d.shapeAt l with
  | some (.file content) => some content
  | _ => none

theorem fileAt_eq_some_iff {content : Bytes} :
    d.fileAt l = some content ↔ d.shapeAt l = some (.file content) := by
  unfold fileAt
  split <;> simp_all

/-- Above whatever there is are directories. -/
theorem shapeAt_above {a b : Location} (h : (d.shapeAt (a ++ b)).isSome) (hb : b ≠ []) :
    d.shapeAt a = some .directory := by
  obtain ⟨name, b, rfl⟩ := List.exists_cons_of_ne_nil hb
  simp only [shapeAt, Entry.shape?, Entry.at?_append, Option.isSome_map] at h ⊢
  cases ha : d.root.at? a with
  | none => simp [ha] at h
  | some e =>
    cases e with
    | file _ => simp [ha] at h
    | directory es => rfl

/-- On the way down there is something after the first name. -/
theorem isSome_shapeAt_first (h : (d.shapeAt (place ++ name :: names)).isSome) :
    (d.shapeAt (place ++ [name])).isSome := by
  have hsplit : place ++ name :: names = place ++ [name] ++ names := by simp
  rw [hsplit] at h
  cases names with
  | nil => simpa using h
  | cons n names => rw [shapeAt_above h (by simp)]; rfl

theorem shapeAt_dropLast (h : d.shapeAt l = some .directory) :
    d.shapeAt l.dropLast = some .directory := by
  rcases l.eq_nil_or_concat' with rfl | ⟨a, name, rfl⟩
  · exact h
  · rw [List.dropLast_concat]
    exact shapeAt_above (b := [name]) (by simp [h]) (by simp)

/-! ### Following -/

/-- One component is followed at a time, and only from a directory. -/
theorem follow_cons : d.follow place (name :: names) =
    match d.shapeAt place with
    | none => .error .notFound
    | some (.file _) => .error .noDirectory
    | some .directory =>
      if name = "" || name = "." then d.follow place names
      else if name = ".." then d.follow place.dropLast names
      else if maxName < name.utf8ByteSize then .error .nameTooLong
      else if (d.shapeAt (place ++ [name])).isSome then d.follow (place ++ [name]) names
      else .error .notFound := by
  rw [follow, shapeAt, Entry.shape?]
  cases hplace : d.root.at? place with
  | none => rfl
  | some e =>
    cases e with
    | file _ => rfl
    | directory es =>
      have hname : (d.shapeAt (place ++ [name])).isSome = (Entry.named? es name).isSome := by
        simp [shapeAt, Entry.shape?, Entry.at?_append, hplace]
      rw [hname]
      rfl

@[simp] theorem follow_nil : d.follow place [] = .ok place := by rw [follow]

theorem follow_append (xs ys : List String) :
    d.follow place (xs ++ ys) = (d.follow place xs).bind fun l => d.follow l ys := by
  induction xs generalizing place with
  | nil => rw [List.nil_append, follow_nil]; rfl
  | cons name xs ih =>
    rw [List.cons_append, follow_cons, follow_cons]
    split
    · rfl
    · rfl
    · split_ifs
      · exact ih
      · exact ih
      · rfl
      · exact ih
      · rfl

theorem follow_append_eq_ok_iff {xs ys : List String} : d.follow place (xs ++ ys) = .ok l ↔
    ∃ above, d.follow place xs = .ok above ∧ d.follow above ys = .ok l := by
  rw [follow_append]
  cases d.follow place xs with
  | error f => simp [Except.bind]
  | ok above => simp [Except.bind]

/-- Empty components before others lead nowhere else. -/
theorem follow_replicate_append (k : Nat) (hcs : cs ≠ []) :
    d.follow place (List.replicate k "" ++ cs) = d.follow place cs := by
  induction k with
  | zero => rfl
  | succ k ih =>
    rw [List.replicate_succ, List.cons_append, follow_cons, ih]
    split
    · next hplace =>
      obtain ⟨name, cs, rfl⟩ := List.exists_cons_of_ne_nil hcs
      rw [follow_cons, hplace]
    · next hplace =>
      obtain ⟨name, cs, rfl⟩ := List.exists_cons_of_ne_nil hcs
      rw [follow_cons, hplace]
    · rfl

/-- Components can be followed from directories only. -/
theorem shapeAt_of_follow_cons (h : d.follow place (name :: names) = .ok l) :
    d.shapeAt place = some .directory := by
  rw [follow_cons] at h
  split at h
  · cases h
  · cases h
  · assumption

/-- There is something where components lead. -/
theorem isSome_shapeAt_of_follow (hplace : (d.shapeAt place).isSome)
    (h : d.follow place names = .ok l) : (d.shapeAt l).isSome := by
  induction names generalizing place with
  | nil =>
    rw [follow_nil] at h
    cases h
    exact hplace
  | cons name names ih =>
    have hdirectory := shapeAt_of_follow_cons h
    rw [follow_cons, hdirectory] at h
    dsimp only at h
    split_ifs at h with _ _ _ hname
    · exact ih hplace h
    · exact ih (by rw [shapeAt_dropLast hdirectory]; rfl) h
    · exact ih hname h

/-- Names lead to the place below that they spell, if there is something. -/
theorem follow_names_iff (hplace : (d.shapeAt place).isSome) (hnames : ∀ n ∈ names, IsName n) :
    d.follow place names = .ok l ↔ l = place ++ names ∧ (d.shapeAt l).isSome := by
  induction names generalizing place with
  | nil =>
    simp only [follow_nil, Except.ok.injEq, List.append_nil]
    constructor
    · rintro rfl
      exact ⟨rfl, hplace⟩
    · rintro ⟨rfl, _⟩
      rfl
  | cons name names ih =>
    rw [List.forall_mem_cons] at hnames
    obtain ⟨hname, hnames⟩ := hnames
    have hsplit : place ++ name :: names = place ++ [name] ++ names := by simp
    constructor
    · intro h
      have hdirectory := shapeAt_of_follow_cons h
      rw [follow_cons, hdirectory] at h
      simp only [hname.ne_empty, hname.ne_here, hname.ne_above, Nat.not_lt.mpr hname.short,
        decide_false, Bool.or_self, Bool.false_eq_true, if_false] at h
      split_ifs at h with hthere
      rw [hsplit]
      exact (ih hthere hnames).mp h
    · rintro ⟨rfl, hl⟩
      have hthere := isSome_shapeAt_first hl
      rw [follow_cons, shapeAt_above hl (by simp)]
      simp only [hname.ne_empty, hname.ne_here, hname.ne_above, Nat.not_lt.mpr hname.short,
        decide_false, Bool.or_self, Bool.false_eq_true, if_false, hthere, if_true]
      exact (ih hthere hnames).mpr ⟨hsplit, hl⟩

/-! ### Resolving -/

/-- A path leads to where its components lead, unless it cannot be a path. -/
theorem resolve_eq_ok_iff : d.resolve path = .ok l ↔
    '\x00' ∉ path.toList ∧ path ≠ "" ∧ d.follow (d.startOf path) (components path) = .ok l := by
  unfold resolve
  by_cases hzero : '\x00' ∈ path.toList
  · simp [hzero]
  · by_cases hempty : path = ""
    · simp [hempty]
    · simp [hzero, hempty]

theorem isSome_shapeAt_of_resolve (h : d.resolve path = .ok l) : (d.shapeAt l).isSome := by
  obtain ⟨_, _, hfollow⟩ := resolve_eq_ok_iff.mp h
  obtain ⟨name, names, hcs⟩ := List.exists_cons_of_ne_nil (components_ne_nil path)
  rw [hcs] at hfollow
  have hstart := shapeAt_of_follow_cons hfollow
  exact isSome_shapeAt_of_follow (by rw [hstart]; rfl) hfollow

/-- A path that leads anywhere leads there through the root, which is a directory. -/
theorem shapeAt_nil_of_resolve (h : d.resolve path = .ok l) : d.shapeAt [] = some .directory := by
  obtain ⟨_, _, hfollow⟩ := resolve_eq_ok_iff.mp h
  obtain ⟨name, names, hcs⟩ := List.exists_cons_of_ne_nil (components_ne_nil path)
  rw [hcs] at hfollow
  have hstart := shapeAt_of_follow_cons hfollow
  cases hplace : d.startOf path with
  | nil => rwa [hplace] at hstart
  | cons name place =>
    rw [hplace] at hstart
    exact shapeAt_above (a := []) (b := name :: place) (by simp [hstart]) (by simp)

/-- A name by itself leads on from where relative paths begin. -/
theorem resolve_name (h : IsName name) :
    d.resolve name = .ok l ↔ l = d.here ++ [name] ∧ (d.shapeAt l).isSome := by
  have hstart : d.startOf name = d.here := by simp [startOf, isAbsolute_name h]
  rw [resolve_eq_ok_iff, components_of_isName h, hstart]
  constructor
  · rintro ⟨_, _, hfollow⟩
    have hhere := shapeAt_of_follow_cons hfollow
    exact (follow_names_iff (by rw [hhere]; rfl) (by simpa using h)).mp hfollow
  · rintro ⟨rfl, hl⟩
    have hhere := shapeAt_above hl (by simp)
    exact ⟨h.noZero, h.ne_empty,
      (follow_names_iff (by rw [hhere]; rfl) (by simpa using h)).mpr ⟨rfl, hl⟩⟩

/-- A dot leads to where relative paths begin. -/
theorem resolve_dot (h : d.shapeAt d.here = some .directory) : d.resolve "." = .ok d.here := by
  have hcomponents : components "." = ["."] := by decide
  have hstart : d.startOf "." = d.here := rfl
  rw [resolve_eq_ok_iff, hcomponents, hstart, follow_cons, h]
  exact ⟨by decide, by decide, by simp⟩

/-- Following a path that leads on is following the path before and then its name. -/
theorem follow_of_leadsOn (h : LeadsOn p name path) :
    d.follow place (components path) =
      (d.follow place (components p)).bind fun l => d.follow l [name] := by
  obtain ⟨cs, k, m, hp, hpath⟩ := h.exists_components
  have hskip (j : Nat) : d.follow place (cs ++ List.replicate j "" ++ [name]) =
      (d.follow place cs).bind fun l => d.follow l [name] := by
    rw [List.append_assoc, follow_append]
    congr 1
    funext l
    exact follow_replicate_append j (by simp)
  rw [hpath, hskip, hp, ← hskip k, follow_append]

/-- So a path that leads on leads below the path before. -/
theorem resolve_of_leadsOn (h : LeadsOn p name path) (hzero : '\x00' ∉ name.toList) :
    d.resolve path = .ok l ↔ ∃ place, d.resolve p = .ok place ∧ d.follow place [name] = .ok l := by
  have hpath : '\x00' ∉ path.toList ↔ '\x00' ∉ p.toList := by
    rw [h.mem_toList_iff (by decide)]
    simp [hzero]
  have hstart : d.startOf path = d.startOf p := by rw [startOf, startOf, h.isAbsolute_eq]
  simp only [resolve_eq_ok_iff, hpath, hstart, h.ne_empty, h.path_ne_empty, ne_eq,
    not_false_eq_true, true_and, follow_of_leadsOn h]
  cases d.follow (d.startOf p) (components p) with
  | error f => simp [Except.bind]
  | ok place => simp [Except.bind]

/-- Names below a path lead to the places that they spell below it. -/
theorem resolve_joinAll (hp : p ≠ "") (hnames : ∀ n ∈ names, IsName n) :
    d.resolve (joinAll p names) = .ok l ↔
      ∃ place, d.resolve p = .ok place ∧ l = place ++ names ∧ (d.shapeAt l).isSome := by
  induction names generalizing p with
  | nil =>
    simp only [joinAll_nil, List.append_nil]
    constructor
    · intro h
      exact ⟨l, h, rfl, isSome_shapeAt_of_resolve h⟩
    · rintro ⟨place, h, rfl, _⟩
      exact h
  | cons name names ih =>
    rw [List.forall_mem_cons] at hnames
    obtain ⟨hname, hnames⟩ := hnames
    rw [joinAll_cons, ih (join_ne_empty hname) hnames]
    constructor
    · rintro ⟨place, hplace, rfl, hl⟩
      obtain ⟨above, habove, hfollow⟩ :=
        (resolve_of_leadsOn (leadsOn_join hp hname) hname.noZero).mp hplace
      obtain ⟨rfl, _⟩ := (follow_names_iff (isSome_shapeAt_of_resolve habove)
        (by simpa using hname)).mp hfollow
      exact ⟨above, habove, by simp, hl⟩
    · rintro ⟨place, hplace, rfl, hl⟩
      have hthere := isSome_shapeAt_first hl
      refine ⟨place ++ [name], ?_, by simp, hl⟩
      rw [resolve_of_leadsOn (leadsOn_join hp hname) hname.noZero]
      exact ⟨place, hplace, (follow_names_iff (isSome_shapeAt_of_resolve hplace)
        (by simpa using hname)).mpr ⟨rfl, hthere⟩⟩

/-! ### Reading -/

theorem entry_of_resolve (h : d.resolve path = .ok l) :
    ∃ e, d.root.at? l = some e ∧ d.entry path = .ok e := by
  have hl := isSome_shapeAt_of_resolve h
  rw [shapeAt, Entry.shape?, Option.isSome_map, Option.isSome_iff_exists] at hl
  obtain ⟨e, he⟩ := hl
  refine ⟨e, he, ?_⟩
  rw [entry, h]
  simp [Except.bind, he]

theorem entry_eq_ok_iff {e : Entry} :
    d.entry path = .ok e ↔ ∃ l, d.resolve path = .ok l ∧ d.root.at? l = some e := by
  constructor
  · intro h
    cases hl : d.resolve path with
    | error f =>
      rw [entry, hl] at h
      cases h
    | ok l =>
      obtain ⟨x, hx, hentry⟩ := entry_of_resolve hl
      rw [hentry] at h
      cases h
      exact ⟨l, rfl, hx⟩
  · rintro ⟨l, hl, he⟩
    obtain ⟨x, hx, hentry⟩ := entry_of_resolve hl
    rw [hx] at he
    cases he
    exact hentry

theorem pathExists_iff : d.pathExists path = true ↔ ∃ l, d.resolve path = .ok l := by
  constructor
  · intro h
    cases hl : d.resolve path with
    | error f =>
      rw [pathExists, entry, hl] at h
      cases h
    | ok l => exact ⟨l, rfl⟩
  · rintro ⟨l, hl⟩
    obtain ⟨e, _, hentry⟩ := entry_of_resolve hl
    rw [pathExists, hentry]
    rfl

theorem isDirectory_iff : d.isDirectory path = true ↔
    ∃ l, d.resolve path = .ok l ∧ d.shapeAt l = some .directory := by
  unfold isDirectory
  constructor
  · intro h
    split at h
    · next es he =>
      obtain ⟨l, hl, hes⟩ := entry_eq_ok_iff.mp he
      exact ⟨l, hl, by simp [shapeAt, Entry.shape?, hes]⟩
    · cases h
  · rintro ⟨l, hl, hshape⟩
    obtain ⟨e, he, hentry⟩ := entry_of_resolve hl
    simp only [shapeAt, Entry.shape?, he, Option.map_some, Option.some.injEq] at hshape
    obtain ⟨es, rfl⟩ := Entry.shape_eq_directory_iff.mp hshape
    simp [hentry]

/-- What is read at a path is told by what is at the place that it leads to. -/
theorem readFile_of_resolve (h : d.resolve path = .ok l) : d.readFile path =
    match d.shapeAt l with
    | some (.file content) => .ok content
    | _ => .error .isDirectory := by
  obtain ⟨e, he, hentry⟩ := entry_of_resolve h
  rw [readFile, hentry, shapeAt, Entry.shape?, he]
  cases e <;> rfl

/-- What is read at a path is the content of the file that the path leads to. -/
theorem readFile_eq_ok_iff {content : Bytes} : d.readFile path = .ok content ↔
    ∃ l, d.resolve path = .ok l ∧ d.fileAt l = some content := by
  simp only [fileAt_eq_some_iff]
  constructor
  · intro h
    cases hl : d.resolve path with
    | error f =>
      rw [readFile, entry, hl] at h
      cases h
    | ok l =>
      rw [readFile_of_resolve hl] at h
      split at h
      · next hshape =>
        cases h
        exact ⟨l, rfl, hshape⟩
      · cases h
  · rintro ⟨l, hl, hshape⟩
    rw [readFile_of_resolve hl, hshape]

end Disk

end CustomElement.Files
