import Bindery.Proofs.Command.Writes

/-!
# Files that replace one another

A run that is asked for all targets writes four files, one after the other, and what is written last
to a place stays there. The paths of the files differ as texts, unless the interfaces and the stubs
have the same directory and the same prefix. But it is not the texts that count: the interfaces are
replaced by the stubs exactly when both paths lead to one place. No other file is ever replaced. The
main statement is `files_kept_iff`.
-/
namespace Bindery.Command
open GeneratedFile Target FileTree

variable {api : Api} {layout : Layout} {file : Target → GeneratedFile}
variable {tree : FileTree}

/-- Steps are carried out up to the first file that cannot be written. -/
theorem carryOut_stops (tree : FileTree) (printed : String) (steps : List Step) :
    ∃ done rest reached, steps = done ++ rest ∧ afterWrites? tree done = some reached ∧
      Grows reached (carryOut tree printed false steps).tree ∧
      (carryOut tree printed false steps).printed = printed ++ String.join (done.map Step.said) ∧
      ((carryOut tree printed false steps).code = 0 ↔ rest = []) ∧
      ∀ path content more, rest = .write path content :: more →
        (carryOut tree printed false steps).tree.write? path (some content) = none := by
  induction steps generalizing tree printed with
  | nil =>
    exact ⟨[], [], tree, rfl, rfl, .refl tree, by simp [carryOut, String.join], by simp [carryOut],
      by simp⟩
  | cons step steps ih =>
    cases step with
    | print text =>
      obtain ⟨done, rest, reached, rfl, hreached, hgrows, hprinted, hcode, hnext⟩ :=
        ih tree (printed ++ text)
      refine ⟨.print text :: done, rest, reached, rfl, hreached, hgrows, ?_, hcode, hnext⟩
      rw [carryOut, hprinted, String.append_assoc]
      simp [Step.said, String.join_cons]
    | write path content =>
      cases hwrite : tree.write? path (some content) with
      | none =>
        have hgrows := tree.grows_afterFailure path
        simp only [carryOut, hwrite]
        refine ⟨[], .write path content :: steps, tree, rfl, rfl, hgrows, by simp [String.join],
          by simp, ?_⟩
        rintro _ _ _ ⟨⟩
        exact hgrows.write?_eq_none hwrite
      | some next =>
        simp only [carryOut, hwrite]
        obtain ⟨done, rest, reached, rfl, hreached, hgrows, hprinted, hcode, hnext⟩ :=
          ih next (printed ++ written path)
        refine ⟨.write path content :: done, rest, reached, rfl, ?_, hgrows, ?_, hcode, hnext⟩
        · rw [afterWrites?, hwrite, Option.bind_some, hreached]
        · rw [hprinted, String.append_assoc]
          simp [Step.said, String.join_cons]

/-- What a run leaves that writes the files of all targets below a folder: the targets that are done
come first, and it ends at the first file that cannot be written. -/
structure Leaves (tree : FileTree) (folder : String) (file : Target → GeneratedFile)
    (outcome : Outcome) (done rest : List Target) : Prop where
  order : Target.all = done ++ rest
  code : outcome.code = 0 ↔ rest = []
  printed : outcome.printed =
    String.join (done.map fun t => written (joinPath folder (file t).path))
  stopped : ∀ t ∈ rest.head?,
    outcome.tree.write? (joinPath folder (file t).path) (some (file t).content) = none
  kept : ∀ t ∈ done,
    (outcome.tree.file? (landing tree folder file t) = some (some (file t).content) ↔
      ¬ (t = interfaces ∧ stubs ∈ done ∧
        landing tree folder file interfaces = landing tree folder file stubs))
  others : ∀ place, (∀ t ∈ done, landing tree folder file t ≠ place) →
    outcome.tree.file? place = tree.file? place

theorem run_eq_carryOut {arguments : List String} {options : Generate}
    (hfile : ∀ target : Target, target.generate api layout = .ok (file target))
    (hparse : parse arguments = .ok (.generate options)) (hall : options.targets = Target.all)
    (hapi : loadApi? tree.read? options.api = some api)
    (hlayout : loadLayout? tree.read? options = some layout) :
    run tree arguments =
      carryOut tree "" false (Target.all.map fun t => emit options.out (file t)) := by
  simp only [run, hparse, plan_of_loads hapi hlayout, hall,
    planTargets_of_files fun target _ => hfile target]

theorem exists_leaves (tree : FileTree) (folder : String)
    (hfile : ∀ target : Target, target.generate api layout = .ok (file target)) :
    ∃ done rest, Leaves tree folder file
      (carryOut tree "" false (Target.all.map fun t => emit (some folder) (file t))) done rest := by
  obtain ⟨steps, left, reached, hsplit, hreached, hgrows, hprinted, hcode, hstopped⟩ :=
    carryOut_stops tree "" (Target.all.map fun t => emit (some folder) (file t))
  obtain ⟨done, rest, hall, rfl, rfl⟩ := List.map_eq_append_iff.mp hsplit
  refine ⟨done, rest, ?_⟩
  constructor
  case order => exact hall
  case code => simpa using hcode
  case printed =>
    rw [hprinted, String.empty_append, List.map_map]
    rfl
  case stopped =>
    intro t ht
    obtain ⟨more, rfl⟩ := List.head?_eq_some_iff.mp ht
    exact hstopped _ _ _ rfl
  case kept =>
    intro t ht
    rw [hgrows.file?, file?_landing hfile ⟨rest, hall.symm⟩ hreached ht]
    split_ifs with hreplaced
    · have hne := (content_interfaces_ne_content_stubs hfile).symm
      rw [hreplaced.1]
      simpa [hreplaced] using hne
    · simpa using hreplaced
  case others =>
    intro place hplace
    rw [hgrows.file?, file?_of_not_landing hreached hplace]

/-- The paths of the four files differ as texts, unless the interfaces and the stubs share directory
and prefix. A run that writes them replaces none but the interfaces, and it does so exactly when it
writes the stubs and both paths lead to one place. Plain paths lead to one place only if they are
the same text. -/
theorem files_kept_iff
    (hfile : ∀ target : Target, target.generate api layout = .ok (file target)) :
    Apart (fun target => (file target).path) ∧
    ((file interfaces).path = (file stubs).path ↔
      directory layout.api ++ "/" ++ layout.stemPrefix layout.api =
        directory layout.library ++ "/" ++ layout.stemPrefix layout.library) ∧
    ∀ tree arguments options folder, parse arguments = .ok (.generate options) →
      options.targets = Target.all → options.out = some folder →
      loadApi? tree.read? options.api = some api →
      loadLayout? tree.read? options = some layout →
      Apart (landing tree folder file) ∧
      (Plain (file interfaces).path → Plain (file stubs).path →
        (landing tree folder file interfaces = landing tree folder file stubs ↔
          (file interfaces).path = (file stubs).path)) ∧
      ∃ done rest, Leaves tree folder file (run tree arguments) done rest := by
  refine ⟨apart_path hfile, path_interfaces_eq_path_stubs_iff hfile, ?_⟩
  intro tree arguments options folder hparse hall hout hapi hlayout
  refine ⟨apart_landing hfile tree folder, destination_eq_iff_of_plain, ?_⟩
  rw [run_eq_carryOut hfile hparse hall hapi hlayout, hout]
  exact exists_leaves tree folder hfile

/-! ## Two layouts -/

/-- A folder with an empty description and a layout. -/
def treeWithLayout (text : String) : FileTree where
  home := ["home"]
  folders := []
  files := [(["home", "api.json"], some "\x7b\x7d"), (["home", "layout.toml"], some text)]

/-- A command line that asks for all targets below a folder. -/
def allBelow : List String :=
  ["generate", "--api", "api.json", "--config", "layout.toml", "--target", "all", "--out", "out"]

def allBelowOptions : Generate :=
  { api := "api.json", layout := some "layout.toml", out := some "out" }

theorem parse_allBelow : parse allBelow = .ok (.generate allBelowOptions) := by decide +kernel

def emptyFile (layout : Layout) (target : Target) : GeneratedFile :=
  (target.generate {} layout).toOption.getD default

theorem generate_emptyFile (layout : Layout) (target : Target) :
    target.generate {} layout = .ok (emptyFile layout target) := by
  cases target <;> rfl

/-- The package of the API with an empty step before its name. -/
def detour : Layout := { apiPath := "internal//clib" }

def detourTree : FileTree := treeWithLayout "api_pkg = \"internal//clib\"\n"

theorem loadLayout?_detourTree : loadLayout? detourTree.read? allBelowOptions = some detour := by
  decide +kernel

theorem run_detourTree : (run detourTree allBelow).code = 0 ∧
    ∀ entry ∈ (run detourTree allBelow).tree.files,
      entry.2 ≠ some (emptyFile detour interfaces).content := by
  decide +kernel

/-- With the usual layout all four files are kept, and with the detour the interfaces are not. -/
theorem files_kept_iff_layouts :
    (∀ t, (run (treeWithLayout "") allBelow).tree.file?
        (landing (treeWithLayout "") "out" (emptyFile {}) t) =
      some (some (emptyFile {} t).content)) ∧
    (run detourTree allBelow).tree.file? (landing detourTree "out" (emptyFile detour) interfaces) ≠
      some (some (emptyFile detour interfaces).content) := by
  constructor
  · obtain ⟨-, -, hrun⟩ := files_kept_iff (generate_emptyFile {})
    obtain ⟨-, hplain, done, rest, hleaves⟩ := hrun (treeWithLayout "") allBelow allBelowOptions
      "out" parse_allBelow rfl rfl (by decide +kernel) (by decide +kernel)
    obtain rfl : rest = [] := hleaves.code.mp (by decide +kernel)
    obtain rfl : Target.all = done := hleaves.order.trans (List.append_nil done)
    intro t
    refine (hleaves.kept t (by cases t <;> decide)).mpr ?_
    rintro ⟨-, -, hsame⟩
    have hpaths := (hplain (by decide +kernel) (by decide +kernel)).mp hsame
    revert hpaths
    decide +kernel
  · obtain ⟨-, -, hrun⟩ := files_kept_iff (generate_emptyFile detour)
    obtain ⟨-, -, done, rest, hleaves⟩ := hrun detourTree allBelow allBelowOptions
      "out" parse_allBelow rfl rfl (by decide +kernel) loadLayout?_detourTree
    obtain rfl : rest = [] := hleaves.code.mp run_detourTree.1
    obtain rfl : Target.all = done := hleaves.order.trans (List.append_nil done)
    rw [Ne, hleaves.kept interfaces (by decide), not_not]
    decide +kernel

/-- The two paths of the detour differ, and so do their texts before the name of the file. But the
run ends well, and no file holds the interfaces. -/
theorem detour_loses_interfaces :
    loadLayout? detourTree.read? allBelowOptions = some detour ∧
    (∀ target : Target, target.generate {} detour = .ok (emptyFile detour target)) ∧
    (emptyFile detour interfaces).path ≠ (emptyFile detour stubs).path ∧
    directory detour.api ++ "/" ++ detour.stemPrefix detour.api ≠
      directory detour.library ++ "/" ++ detour.stemPrefix detour.library ∧
    (run detourTree allBelow).code = 0 ∧
    ∀ entry ∈ (run detourTree allBelow).tree.files,
      entry.2 ≠ some (emptyFile detour interfaces).content :=
  ⟨loadLayout?_detourTree, generate_emptyFile detour, by decide +kernel, by decide +kernel,
    run_detourTree⟩

end Bindery.Command
