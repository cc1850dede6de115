import Bindery.Command.FileTree
import Mathlib.Data.List.Basic

/-!
# Places of paths

Different paths can lead to one place: empty steps and steps to the same folder lead nowhere, and
steps up undo other steps. Where a file goes that is written at a path depends on the path and the
working directory alone: it is the `destination` of the path, whatever folders there are. A path
that has no such steps is `Plain`, and below one folder the plain paths lead to different places.
-/
namespace Bindery.Command

/-! ## Paths below a folder -/

theorem exists_joinPath_eq_append (folder path : String) :
    ∃ front, joinPath folder path = front ++ path := by
  unfold joinPath
  split_ifs
  · exact ⟨"", by simp⟩
  · exact ⟨folder, rfl⟩
  · exact ⟨folder ++ "/", rfl⟩

theorem exists_joinPath_eq (folder : String) :
    ∃ front, ∀ path, path.startsWith "/" = false → joinPath folder path = front ++ "/" ++ path := by
  by_cases hslash : folder.endsWith "/" = true
  · obtain ⟨front, hfront⟩ := String.Slice.endsWith_string_iff.mp hslash
    have hfolder : folder = String.ofList front ++ "/" := by
      rw [← String.toList_inj]
      simpa using hfront.symm
    exact ⟨String.ofList front, fun path hpath => by simp [joinPath, hpath, hslash, ← hfolder]⟩
  · exact ⟨folder, fun path hpath => by simp [joinPath, hpath, hslash]⟩

/-! ## Steps of a path -/

namespace FileTree

theorem stepsAfter_ne_nil (read cs : List Char) : stepsAfter read cs ≠ [] := by
  induction cs generalizing read with
  | nil => simp [stepsAfter]
  | cons c cs ih =>
    rw [stepsAfter]
    split
    · simp
    · exact ih _

theorem steps_ne_nil (path : String) : steps path ≠ [] := stepsAfter_ne_nil _ _

/-- Steps with slashes between them are the path again. -/
theorem intercalate_stepsAfter (read cs : List Char) :
    "/".intercalate (stepsAfter read cs) = String.ofList (read.reverse ++ cs) := by
  induction cs generalizing read with
  | nil => simp [stepsAfter]
  | cons c cs ih =>
    rw [stepsAfter]
    split
    · next h =>
      rw [String.intercalate_cons_of_ne_nil (stepsAfter_ne_nil _ _), ih, h]
      simp [← String.toList_inj]
    · rw [ih]
      simp

theorem steps_inj {a b : String} (h : steps a = steps b) : a = b := by
  have hjoined := congrArg ("/".intercalate ·) h
  simpa [steps, intercalate_stepsAfter] using hjoined

theorem stepsAfter_append_slash (read before after : List Char) :
    stepsAfter read (before ++ '/' :: after) = stepsAfter read before ++ stepsAfter [] after := by
  induction before generalizing read with
  | nil => simp [stepsAfter]
  | cons c before ih =>
    rw [List.cons_append, stepsAfter, stepsAfter]
    split
    · rw [ih, List.cons_append]
    · exact ih _

theorem steps_append_slash (before after : String) :
    steps (before ++ "/" ++ after) = steps before ++ steps after := by
  simpa [steps] using stepsAfter_append_slash [] before.toList after.toList

theorem stepsAfter_of_not_mem (read : List Char) {name : List Char} (h : '/' ∉ name) :
    stepsAfter read name = [String.ofList (read.reverse ++ name)] := by
  induction name generalizing read with
  | nil => simp [stepsAfter]
  | cons c name ih =>
    rw [stepsAfter, if_neg (List.ne_of_not_mem_cons h).symm, ih _ (List.not_mem_of_not_mem_cons h)]
    simp

/-- A text without a slash belongs to the last step of a path that ends with it. -/
theorem getLast?_stepsAfter_append (read before : List Char) {name : List Char} (h : '/' ∉ name) :
    ∃ start,
      (stepsAfter read (before ++ name)).getLast? = some (String.ofList (start ++ name)) := by
  induction before generalizing read with
  | nil => exact ⟨read.reverse, by simp [stepsAfter_of_not_mem read h]⟩
  | cons c before ih =>
    rw [List.cons_append, stepsAfter]
    split
    · rw [List.getLast?_cons_of_ne_nil (stepsAfter_ne_nil _ _)]
      exact ih []
    · exact ih _

/-! ## Places of paths -/

variable {tree after : FileTree} {path : String} {content : Option String}

/-- The place that steps lead to, whatever folders there are. -/
def resolve (place : Place) : List String → Place
  | [] => place
  | step :: rest =>
    if step = "" ∨ step = "." then resolve place rest
    else if step = ".." then resolve place.dropLast rest
    else resolve (place ++ [step]) rest

/-- The place of a file that is written at a path. -/
def destination (tree : FileTree) (path : String) : Place :=
  resolve (tree.start path) (steps path).dropLast ++ (steps path).getLast?.toList

theorem resolve_append (place : Place) (names more : List String) :
    resolve place (names ++ more) = resolve (resolve place names) more := by
  induction names generalizing place with
  | nil => rfl
  | cons step names ih =>
    simp only [List.cons_append, resolve, ih]
    split_ifs <;> rfl

theorem destination_congr (h : after.home = tree.home) (path : String) :
    after.destination path = tree.destination path := by
  simp only [destination, start, h]

theorem exists_getLast?_destination (tree : FileTree) (front : String) {name : String}
    (h : '/' ∉ name.toList) :
    ∃ start, (tree.destination (front ++ name)).getLast? = some (start ++ name) := by
  obtain ⟨start, hstart⟩ := getLast?_stepsAfter_append [] front.toList h
  refine ⟨String.ofList start, ?_⟩
  rw [destination, steps, String.toList_append, hstart]
  simp

/-! ## Writing a file -/

theorem isFolder_iff {place : Place} :
    tree.isFolder place = true ↔ place = [] ∨ place = tree.home ∨ place ∈ tree.folders := by
  simp [isFolder, or_assoc]

/-- The second tree holds the same files, and it has all folders of the first. -/
structure Grows (tree after : FileTree) : Prop where
  home : after.home = tree.home
  files : after.files = tree.files
  folders : ∀ place, tree.isFolder place = true → after.isFolder place = true

namespace Grows

theorem refl (tree : FileTree) : Grows tree tree := ⟨rfl, rfl, fun _ h => h⟩

theorem trans {last : FileTree} (h : Grows tree after) (h' : Grows after last) : Grows tree last :=
  ⟨h'.home.trans h.home, h'.files.trans h.files, fun place hplace =>
    h'.folders place (h.folders place hplace)⟩

theorem file? (h : Grows tree after) (place : Place) : after.file? place = tree.file? place := by
  rw [FileTree.file?, FileTree.file?, h.files]

theorem addFolder (tree : FileTree) (next : Place) :
    Grows tree { tree with folders := next :: tree.folders } := by
  refine ⟨rfl, rfl, fun place h => ?_⟩
  rw [isFolder_iff] at h ⊢
  exact h.imp_right fun h => h.imp_right (List.mem_cons_of_mem next)

theorem addKnown (h : Grows tree after) {next : Place} (hnext : after.isFolder next = true) :
    Grows { tree with folders := next :: tree.folders } after := by
  refine ⟨h.home, h.files, fun place hplace => ?_⟩
  rcases isFolder_iff.mp hplace with hroot | hhome | hmem
  · exact isFolder_iff.mpr (.inl hroot)
  · exact isFolder_iff.mpr (.inr (.inl (hhome.trans h.home.symm)))
  · rcases List.mem_cons.mp hmem with rfl | hold
    · exact hnext
    · exact h.folders place (isFolder_iff.mpr (.inr (.inr hold)))

end Grows

/-- The folders that are made on the way leave the files as they are. -/
theorem grows_enter (tree : FileTree) (place : Place) (names : List String) :
    Grows tree (tree.enter place names).1 := by
  fun_induction enter tree place names with
  | case1 tree place => exact .refl tree
  | case2 tree place step rest hstay ih => exact ih
  | case3 tree place rest hstay ih => exact ih
  | case4 tree place step rest hstay hup next hblocked => exact .refl tree
  | case5 tree place step rest hstay hup next hfree hfolder ih => exact ih
  | case6 tree place step rest hstay hup next hfree hnew ih =>
    exact (Grows.addFolder tree next).trans ih

theorem place_of_enter {place folder : Place} {names : List String}
    (h : (tree.enter place names).2 = some folder) : folder = resolve place names := by
  fun_induction enter tree place names with
  | case1 tree place => exact (Option.some.inj h).symm
  | case2 tree place step rest hstay ih =>
    rw [resolve, if_pos hstay]
    exact ih h
  | case3 tree place rest hstay ih =>
    rw [resolve, if_neg hstay, if_pos rfl]
    exact ih h
  | case4 => cases h
  | case5 tree place step rest hstay hup next _ _ ih =>
    rw [resolve, if_neg hstay, if_neg hup]
    exact ih h
  | case6 tree place step rest hstay hup next _ _ ih =>
    rw [resolve, if_neg hstay, if_neg hup]
    exact ih h

/-- More folders neither open a way nor close one. -/
theorem Grows.enter (h : Grows tree after) (place : Place) (names : List String) :
    Grows (tree.enter place names).1 (after.enter place names).1 ∧
      (after.enter place names).2 = (tree.enter place names).2 := by
  induction names generalizing tree after place with
  | nil => exact ⟨h, rfl⟩
  | cons step rest ih =>
    simp only [FileTree.enter, h.file?]
    split
    · exact ih h place
    · split
      · exact ih h place.dropLast
      · split
        · exact ⟨h, rfl⟩
        · by_cases hfolder : tree.isFolder (place ++ [step]) = true
          · rw [if_pos hfolder, if_pos (h.folders _ hfolder)]
            exact ih h (place ++ [step])
          · rw [if_neg hfolder]
            split
            · next hknown => exact ih (h.addKnown hknown) _
            · exact ih ((h.trans (.addFolder after _)).addKnown (isFolder_iff.mpr (by simp))) _

theorem lookup_filter_ne {files : List (Place × Option String)} {place other : Place}
    (h : other ≠ place) : (files.filter (·.1 != place)).lookup other = files.lookup other := by
  induction files with
  | nil => rfl
  | cons entry files ih =>
    obtain ⟨key, value⟩ := entry
    by_cases hkey : key = place
    · have hother : (other == key) = false := by simpa [hkey] using h
      rw [List.filter_cons_of_neg (by simp [hkey]), ih, List.lookup_cons, hother]
    · rw [List.filter_cons_of_pos (by simp [hkey]), List.lookup_cons, List.lookup_cons, ih]

/-- One file is set, and all others are as they were. -/
structure Sets (tree after : FileTree) (place : Place) (content : Option String) : Prop where
  home : after.home = tree.home
  file (other : Place) :
    after.file? other = if other = place then some content else tree.file? other

theorem sets_setFile (tree : FileTree) (place : Place) (content : Option String) :
    Sets tree (tree.setFile place content) place content where
  home := rfl
  file other := by
    by_cases h : other = place
    · simp [file?, setFile, h]
    · have hbeq : (other == place) = false := by simpa using h
      simp only [file?, setFile, List.lookup_cons, hbeq, lookup_filter_ne h, if_neg h]

/-- A file is written at the destination of its path. -/
theorem sets_of_write? (h : tree.write? path content = some after) :
    Sets tree after (tree.destination path) content := by
  unfold write? at h
  split at h
  · cases h
  · obtain ⟨name, hname, h⟩ := Option.bind_eq_some_iff.mp h
    obtain ⟨folder, hfolder, h⟩ := Option.bind_eq_some_iff.mp h
    obtain rfl := place_of_enter hfolder
    have hplace : tree.destination path =
        resolve (tree.start path) (steps path).dropLast ++ [name] := by
      rw [destination, hname, Option.toList_some]
    have hgrows := grows_enter tree (tree.start path) (steps path).dropLast
    simp only [← hplace] at h
    split at h
    · cases h
    · obtain rfl := Option.some.inj h
      have hset := sets_setFile (tree.enter (tree.start path) (steps path).dropLast).1
        (tree.destination path) content
      refine ⟨hset.home.trans hgrows.home, fun other => ?_⟩
      rw [hset.file, hgrows.file?]

theorem grows_afterFailure (tree : FileTree) (path : String) :
    Grows tree (tree.afterFailure path) := by
  simp only [afterFailure]
  split
  · exact grows_enter tree _ _
  · exact .refl tree

/-- A file that cannot be written cannot be written with more folders either. -/
theorem Grows.write?_eq_none (hgrows : Grows tree after) (h : tree.write? path content = none) :
    after.write? path content = none := by
  have hstart : after.start path = tree.start path := by rw [start, start, hgrows.home]
  obtain ⟨hmade, hplace⟩ := hgrows.enter (tree.start path) (steps path).dropLast
  simp only [write?, hstart, hplace] at h ⊢
  split at h
  · next hpath => rw [if_pos hpath]
  · next hpath =>
    rw [if_neg hpath]
    cases hname : (steps path).getLast? with
    | none => rfl
    | some name =>
      cases hfolder : (tree.enter (tree.start path) (steps path).dropLast).2 with
      | none => rfl
      | some folder =>
        simp only [hname, hfolder, Option.bind_eq_bind, Option.bind_some] at h ⊢
        split at h
        · next hblocked => rw [if_pos (hmade.folders _ hblocked)]
        · cases h

/-! ## Plain paths -/

/-- A step that leads into a folder: it is not empty, does not stay and does not go up. -/
def IsName (step : String) : Prop := step ≠ "" ∧ step ≠ "." ∧ step ≠ ".."

/-- Every step of the path is a name. -/
def Plain (path : String) : Prop := ∀ step ∈ steps path, IsName step

instance (step : String) : Decidable (IsName step) :=
  inferInstanceAs (Decidable (step ≠ "" ∧ step ≠ "." ∧ step ≠ ".."))

instance (path : String) : Decidable (Plain path) :=
  inferInstanceAs (Decidable (∀ step ∈ steps path, IsName step))

theorem resolve_of_names {names : List String} (h : ∀ step ∈ names, IsName step) (place : Place) :
    resolve place names = place ++ names := by
  induction names generalizing place with
  | nil => simp [resolve]
  | cons step names ih =>
    obtain ⟨⟨hempty, hstay, hup⟩, hnames⟩ := List.forall_mem_cons.mp h
    rw [resolve, if_neg (not_or.mpr ⟨hempty, hstay⟩), if_neg hup, ih hnames]
    simp

theorem Plain.startsWith_slash (h : Plain path) : path.startsWith "/" = false := by
  by_contra hslash
  obtain ⟨rest, hrest⟩ := String.startsWith_string_iff.mp (Bool.of_not_eq_false hslash)
  have hpath : path = "" ++ "/" ++ String.ofList rest := by
    rw [← String.toList_inj, ← hrest]
    simp
  have hempty : "" ∈ steps path := by
    rw [hpath, steps_append_slash]
    exact List.mem_append_left _ (by decide +kernel)
  exact (h _ hempty).1 rfl

theorem start_append (tree : FileTree) (front path : String) :
    tree.start (front ++ "/" ++ path) = tree.start (front ++ "/") := by
  have h : (front ++ "/" ++ path).startsWith "/" = (front ++ "/").startsWith "/" := by
    rw [Bool.eq_iff_iff, String.startsWith_string_iff, String.startsWith_string_iff]
    cases hfront : front.toList <;> simp [hfront]
  rw [start, start, h]

/-- Below a folder, a plain path leads to the place that its steps name. -/
theorem exists_destination_eq (tree : FileTree) (folder : String) :
    ∃ base : Place, ∀ path, Plain path →
      tree.destination (joinPath folder path) = base ++ steps path := by
  obtain ⟨front, hfront⟩ := exists_joinPath_eq folder
  refine ⟨resolve (tree.start (front ++ "/")) (steps front), fun path h => ?_⟩
  have hlast := List.getLast?_eq_some_getLast (steps_ne_nil path)
  have hnames : ∀ step ∈ (steps path).dropLast, IsName step :=
    fun step hstep => h step (List.dropLast_subset _ hstep)
  rw [hfront path h.startsWith_slash, destination, start_append, steps_append_slash,
    List.dropLast_append_of_ne_nil (steps_ne_nil path), resolve_append, resolve_of_names hnames,
    List.getLast?_append, hlast, Option.some_or, Option.toList_some, List.append_assoc,
    List.dropLast_concat_getLast]

theorem destination_eq_iff_of_plain {tree : FileTree} {folder a b : String} (ha : Plain a)
    (hb : Plain b) :
    tree.destination (joinPath folder a) = tree.destination (joinPath folder b) ↔ a = b := by
  obtain ⟨base, hbase⟩ := tree.exists_destination_eq folder
  rw [hbase a ha, hbase b hb, List.append_cancel_left_eq]
  exact ⟨steps_inj, congrArg steps⟩

end FileTree
end Bindery.Command
