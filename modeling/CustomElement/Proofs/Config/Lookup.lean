-- SUMMARY: Where settings are looked up, and that what is put elsewhere does not change them.
import Mathlib.Data.List.Basic
import CustomElement.Config.Load
import CustomElement.Proofs.Files.Writing

/-! ## Looking up settings

Settings come from the file in the working directory or from the user's own. Changes that leave
both places as they are, and make no directory for the user's file, leave the settings as they
are. -/

namespace CustomElement.Config

open Files Report

variable {d d' : Disk} {home : String} {l : Location}

/-! ## Files that stay -/

/-- Two disks have the same at a path. -/
structure SameAt (d d' : Disk) (path : String) : Prop where
  exists_eq : d'.pathExists path = d.pathExists path
  readFile_eq : d.pathExists path = true → d'.readFile path = d.readFile path

theorem sameAt_of_resolve {path : String}
    (hback : ∀ l, d'.resolve path = .ok l → d.resolve path = .ok l ∧ d'.shapeAt l = d.shapeAt l)
    (hforth : ∀ l, d.resolve path = .ok l → d'.resolve path = .ok l) : SameAt d d' path where
  exists_eq := by
    rw [Bool.eq_iff_iff, Disk.pathExists_iff, Disk.pathExists_iff]
    exact exists_congr fun l => ⟨fun h => (hback l h).1, hforth l⟩
  readFile_eq h := by
    obtain ⟨l, hl⟩ := Disk.pathExists_iff.mp h
    obtain ⟨_, hshape⟩ := hback l (hforth l hl)
    rw [Disk.readFile_of_resolve hl, Disk.readFile_of_resolve (hforth l hl), hshape]

/-- The first file that is there is the same one. -/
theorem settingsOfFirst_congr {paths : List String} (h : ∀ path ∈ paths, SameAt d d' path) :
    settingsOfFirst d' paths = settingsOfFirst d paths := by
  induction paths with
  | nil => rfl
  | cons path paths ih =>
    rw [List.forall_mem_cons] at h
    rw [settingsOfFirst, settingsOfFirst, h.1.exists_eq, ih h.2]
    split
    · next hexists =>
      rw [settingsOfFile, settingsOfFile, Disk.readText, Disk.readText, h.1.readFile_eq hexists]
    · rfl

/-! ## The user's own file -/

/-- The name of the directory of the user's own file. -/
def userDirectory : String := ".fluxel"

/-- The components of the user's directory, without the empty ones that slashes at its end give. -/
def homeComponents (home : String) : List String :=
  (componentsOf (home.toList.reverse.dropWhile (· = '/')).reverse).map String.ofList

theorem toList_userFile (home : String) :
    (userFile home).toList = (home.toList.reverse.dropWhile (· = '/')).reverse ++
      '/' :: ".fluxel/fluxel.json".toList := by
  simp only [userFile, fileName, String.toList_append, String.toList_ofList, List.append_assoc]
  rfl

theorem components_userFile (home : String) :
    components (userFile home) = homeComponents home ++ [userDirectory, fileName] := by
  have hrest : componentsOf ".fluxel/fluxel.json".toList =
      [userDirectory.toList, fileName.toList] := by decide
  rw [components, toList_userFile, componentsOf_append_slash, hrest, List.map_append,
    homeComponents]
  simp

theorem exists_homeComponents (home : String) :
    ∃ k, components home = homeComponents home ++ List.replicate k "" := by
  obtain ⟨k, hk⟩ := exists_append_slashes home.toList
  refine ⟨k, ?_⟩
  rw [components, hk, componentsOf_append_replicate, List.map_append, homeComponents]
  simp

/-- It begins where the user's directory begins. -/
theorem isAbsolute_userFile (h : home ≠ "") : isAbsolute (userFile home) = isAbsolute home := by
  obtain ⟨k, hk⟩ := exists_append_slashes home.toList
  rw [isAbsolute, isAbsolute, toList_userFile]
  conv_rhs => rw [hk]
  cases hbefore : (home.toList.reverse.dropWhile (· = '/')).reverse with
  | cons c cs => rfl
  | nil =>
    rw [hbefore, List.nil_append] at hk
    cases k with
    | zero => exact absurd (by simpa using hk) h
    | succ k => rfl

theorem isName_userDirectory : IsName ".fluxel" := by decide +kernel

theorem isName_fileName : IsName "fluxel.json" := by decide +kernel

/-- The user's file is below the place that the user's directory leads to. -/
theorem resolve_userFile : d.resolve (userFile home) = .ok l ↔
    '\x00' ∉ (userFile home).toList ∧ ∃ place,
      d.follow (d.startOf (userFile home)) (homeComponents home) = .ok place ∧
        l = place ++ [userDirectory, fileName] ∧ (d.shapeAt l).isSome := by
  have hne : userFile home ≠ "" := by
    intro hempty
    have := congrArg String.toList hempty
    rw [toList_userFile] at this
    simp at this
  have hnames : ∀ n ∈ [userDirectory, fileName], IsName n := by
    simp only [List.forall_mem_cons, List.not_mem_nil, false_imp_iff, implies_true, and_true]
    exact ⟨isName_userDirectory, isName_fileName⟩
  simp only [Disk.resolve_eq_ok_iff, components_userFile, Disk.follow_append_eq_ok_iff, hne, ne_eq,
    not_false_eq_true, true_and]
  refine and_congr_right fun _ => exists_congr fun place => and_congr_right fun _ => ?_
  constructor
  · intro h
    exact (Disk.follow_names_iff (by rw [Disk.shapeAt_of_follow_cons h]; rfl) hnames).mp h
  · rintro ⟨rfl, hl⟩
    have hdirectory := Disk.shapeAt_above hl (by simp)
    exact (Disk.follow_names_iff (by rw [hdirectory]; rfl) hnames).mpr ⟨rfl, hl⟩

/-! ## The same settings -/

/-- A disk arises from another one without changes where settings are looked up. -/
structure KeepsSettings (d d' : Disk) : Prop where
  keeps : Disk.Keeps d d'
  here : d'.shapeAt (d.here ++ [fileName]) = d.shapeAt (d.here ++ [fileName])
  directory : ∀ l, d'.shapeAt (l ++ [userDirectory]) = some .directory →
    d.shapeAt (l ++ [userDirectory]) = some .directory
  file : ∀ l, d'.shapeAt (l ++ [userDirectory, fileName]) =
    d.shapeAt (l ++ [userDirectory, fileName])

namespace KeepsSettings

theorem sameAt_fileName (h : KeepsSettings d d') : SameAt d d' fileName := by
  refine sameAt_of_resolve (fun l hl => ?_) fun l hl => h.keeps.resolve hl
  have hname : IsName fileName := isName_fileName
  rw [Disk.resolve_name hname, h.keeps.here] at hl
  rw [Disk.resolve_name hname]
  obtain ⟨rfl, hl⟩ := hl
  rw [h.here] at hl
  exact ⟨⟨rfl, hl⟩, h.here⟩

/-- The user's directory leads where it led, unless it leads through what was not there. -/
theorem follow_home (h : KeepsSettings d d')
    (hhome : d.pathExists home = true ∨ ".." ∉ components home)
    (hl : d'.follow (d.startOf (userFile home)) (homeComponents home) = .ok l)
    (hold : (d.shapeAt l).isSome) :
    d.follow (d.startOf (userFile home)) (homeComponents home) = .ok l := by
  obtain ⟨k, hk⟩ := exists_homeComponents home
  rcases hhome with hexists | hback
  · obtain ⟨there, hthere⟩ := Disk.pathExists_iff.mp hexists
    obtain ⟨_, hne, hfollow⟩ := Disk.resolve_eq_ok_iff.mp hthere
    have hstart : d.startOf (userFile home) = d.startOf home := by
      rw [Disk.startOf, Disk.startOf, isAbsolute_userFile hne]
    rw [hstart] at hl ⊢
    rw [hk] at hfollow
    obtain ⟨place, hplace, _⟩ := Disk.follow_append_eq_ok_iff.mp hfollow
    rw [hplace, ← h.keeps.follow hplace, hl]
  · refine h.keeps.follow_back (fun hmem => hback ?_) hl hold
    rw [hk]
    exact List.mem_append_left _ hmem

theorem sameAt_userFile (h : KeepsSettings d d')
    (hhome : d.pathExists home = true ∨ ".." ∉ components home) :
    SameAt d d' (userFile home) := by
  refine sameAt_of_resolve (fun l hl => ?_) fun l hl => h.keeps.resolve hl
  have hstart : d'.startOf (userFile home) = d.startOf (userFile home) := by
    rw [Disk.startOf, Disk.startOf, h.keeps.here]
  rw [resolve_userFile, hstart] at hl
  obtain ⟨hzero, place, hplace, rfl, hthere⟩ := hl
  have hsplit : place ++ [userDirectory, fileName] = place ++ [userDirectory] ++ [fileName] := by
    simp
  have hdirectory : d.shapeAt (place ++ [userDirectory]) = some .directory := by
    refine h.directory place ?_
    rw [hsplit] at hthere
    exact Disk.shapeAt_above hthere (by simp)
  have hold : d.shapeAt place = some .directory :=
    Disk.shapeAt_above (by rw [hdirectory]; rfl) (by simp)
  refine ⟨resolve_userFile.mpr ⟨hzero, place, ?_, rfl, ?_⟩, h.file place⟩
  · exact h.follow_home hhome hplace (by rw [hold]; rfl)
  · rw [← h.file place]
    exact hthere

/-- The settings are the same. -/
theorem loadSettings_eq (h : KeepsSettings d d')
    (hhome : d.pathExists home = true ∨ ".." ∉ components home) :
    loadSettings d' home none = loadSettings d home none :=
  settingsOfFirst_congr (by simpa using ⟨h.sameAt_fileName, h.sameAt_userFile hhome⟩)

end KeepsSettings

end CustomElement.Config
