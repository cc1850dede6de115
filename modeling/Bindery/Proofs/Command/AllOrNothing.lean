import Bindery.Api.Samples
import Bindery.Proofs.Api.RoundTrip
import Bindery.Proofs.Command.Writes
import Bindery.Proofs.Target.Failures

/-!
# All targets or none

A run puts out the file of each target before it generates the next one, so a failure in the middle
would leave some files behind. It cannot happen when all targets are asked for: the wrapper comes
first, and whatever stops another target stops the wrapper as well. Only a file that cannot be
written ends such a run halfway. The main statement is `all_or_nothing`.
-/
namespace Bindery
open Export Outcome

theorem Target.succeeds_of_wrapper {api : Api} {layout : Layout}
    (h : Succeeds (Target.wrapper.generate api layout)) (target : Target) :
    Succeeds (target.generate api layout) := by
  obtain ⟨file, hfile⟩ := h
  cases hg : target.generate api layout with
  | ok other => exact ⟨other, rfl⟩
  | error e =>
    have hcause := content_eq_error_iff.mp (generate_eq_error_iff.mp hg)
    have hwrapper : Target.wrapper.content api layout = .error e := by
      apply content_eq_error_iff.mpr
      rcases hcause with hflaw | ⟨-, hfold⟩
      · exact .inl hflaw
      · exact .inr ⟨.inl rfl, hfold⟩
    rw [generate_eq_error_iff.mpr hwrapper] at hfile
    cases hfile

namespace Command

/-- The files that the targets give for what is read from the named files. -/
def Generates (source : Source) (options : Generate) (file : Target → GeneratedFile) : Prop :=
  ∃ api layout, loadApi? source options.api = some api ∧
    loadLayout? source options = some layout ∧
    ∀ target : Target, target.generate api layout = .ok (file target)

theorem planTargets_of_error {api : Api} {layout : Layout} {target : Target} {e : Error}
    (h : target.generate api layout = .error e) (out : Option String) (targets : List Target) :
    planTargets api layout out (target :: targets) = { fails := true } := by
  simp only [planTargets, h]

/-- The plan for all targets puts out all files, or it only fails. -/
theorem plan_all {source : Source} {options : Generate} (hall : options.targets = Target.all) :
    (∃ file, Generates source options file ∧ plan source (.generate options) =
      { steps := Target.all.map fun t => emit options.out (file t) }) ∨
    ((∀ file, ¬ Generates source options file) ∧
      plan source (.generate options) = { fails := true }) := by
  unfold Generates
  simp only [plan, hall]
  cases loadApi? source options.api with
  | none => exact .inr ⟨by simp, rfl⟩
  | some api =>
    cases loadLayout? source options with
    | none => exact .inr ⟨by simp, rfl⟩
    | some layout =>
      -- the wrapper comes first, so a failure that it shares has no step before it
      cases hw : Target.wrapper.generate api layout with
      | error e =>
        refine .inr ⟨?_, planTargets_of_error hw options.out _⟩
        rintro file ⟨a, l, ha, hl, hfile⟩
        obtain rfl := Option.some.inj ha
        obtain rfl := Option.some.inj hl
        have hfirst := hfile .wrapper
        rw [hw] at hfirst
        cases hfirst
      | ok first =>
        choose file hfile using Target.succeeds_of_wrapper ⟨first, hw⟩
        exact .inl ⟨file, ⟨api, layout, rfl, rfl, hfile⟩,
          planTargets_of_files (fun target _ => hfile target) options.out⟩

/-- A run has put out the files of all targets in order. Without a folder they are printed, each
after its path. With a folder they are written below it and their paths are printed; what a place
held before is only lost if a file goes there, and the interfaces only if the stubs do. -/
def PutsOut (tree : FileTree) (file : Target → GeneratedFile) (outcome : Outcome) :
    Option String → Prop
  | none =>
    outcome.printed = String.join
      ([Target.wrapper, .interfaces, .stubs, .header].map fun t =>
        "// " ++ (file t).path ++ "\n" ++ (file t).content ++ "\n") ∧
    outcome.tree = tree
  | some folder =>
    outcome.printed = String.join
      ([Target.wrapper, .interfaces, .stubs, .header].map fun t =>
        "Wrote: " ++ joinPath folder (file t).path ++ "\n") ∧
    (∀ t : Target,
      (t = .interfaces → landing tree folder file .interfaces ≠ landing tree folder file .stubs) →
      outcome.tree.file? (landing tree folder file t) = some (some (file t).content)) ∧
    ∀ place, (∀ t, landing tree folder file t ≠ place) →
      outcome.tree.file? place = tree.file? place

theorem mem_all (target : Target) : target ∈ Target.all := by
  cases target <;> simp [Target.all]

theorem putsOut_of_generates {tree after : FileTree} {options : Generate}
    {file : Target → GeneratedFile} (h : Generates tree.read? options file)
    (hwrites : afterWrites? tree (Target.all.map fun t => emit options.out (file t)) = some after) :
    PutsOut tree file
      { code := 0
        printed := String.join
          ((Target.all.map fun t => emit options.out (file t)).map Step.said)
        tree := after } options.out := by
  obtain ⟨api, layout, -, -, hfile⟩ := h
  rw [List.map_map]
  cases hout : options.out with
  | none =>
    rw [hout, afterWrites?_print] at hwrites
    exact ⟨rfl, (Option.some.inj hwrites).symm⟩
  | some folder =>
    rw [hout] at hwrites
    refine ⟨rfl, fun t hkept => ?_, fun place hplace => ?_⟩
    · have hreplaced : ¬ (t = .interfaces ∧ Target.stubs ∈ Target.all ∧
          landing tree folder file .interfaces = landing tree folder file .stubs) :=
        fun hall => hkept hall.1 hall.2.2
      have hplace := file?_landing hfile (List.prefix_refl _) hwrites (mem_all t)
      rwa [if_neg hreplaced] at hplace
    · exact file?_of_not_landing hwrites fun t _ => hplace t

/-- A run that is asked for all targets, and in which no file fails to be written, either ends well
and has put out the files of all four targets in order, or fails with nothing printed and the tree
as it was. It ends well exactly when the files can be generated, and every target can be generated
when the wrapper can. -/
theorem all_or_nothing {tree after : FileTree} {arguments : List String} {options : Generate}
    (hparse : parse arguments = .ok (.generate options)) (hall : options.targets = Target.all)
    (hwrites : afterWrites? tree (plan tree.read? (.generate options)).steps = some after) :
    ((∃ file, Generates tree.read? options file ∧ (run tree arguments).code = 0 ∧
        PutsOut tree file (run tree arguments) options.out) ∨
      ((∀ file, ¬ Generates tree.read? options file) ∧ (run tree arguments).code ≠ 0 ∧
        (run tree arguments).printed = "" ∧ (run tree arguments).tree = tree)) ∧
    ∀ api layout, Succeeds (Target.wrapper.generate api layout) →
      ∀ target : Target, Succeeds (target.generate api layout) := by
  refine ⟨?_, fun api layout => Target.succeeds_of_wrapper⟩
  have hrun := run_of_afterWrites? hparse hwrites
  rcases plan_all hall with ⟨file, hgenerates, hplan⟩ | ⟨hnone, hplan⟩
  · rw [hplan] at hrun hwrites
    refine .inl ⟨file, hgenerates, ?_, ?_⟩
    · rw [hrun]
      rfl
    · rw [hrun]
      exact putsOut_of_generates hgenerates hwrites
  · rw [hplan] at hrun hwrites
    obtain rfl := Option.some.inj hwrites
    refine .inr ⟨hnone, ?_, ?_, ?_⟩ <;> rw [hrun]
    · exact Nat.one_ne_zero
    · rfl

theorem loadApi?_of_read {source : Source} {path text : String} {api : Api}
    (hread : source path = some text) (hapi : Api.ofJson text = .ok api) :
    loadApi? source path = some api := by
  simp [loadApi?, hread, hapi, Except.toOption]

theorem Outcome.eq_mk {outcome : Outcome} {code : Nat} {printed : String} {tree : FileTree}
    (hcode : outcome.code = code) (hprinted : outcome.printed = printed)
    (htree : outcome.tree = tree) : outcome = { code, printed, tree } := by
  subst hcode hprinted htree
  rfl

/-- A folder that holds one description. -/
def treeWith (text : String) : FileTree :=
  { home := ["home"], folders := [], files := [(["home", "api.json"], some text)] }

theorem read?_treeWith (text : String) : (treeWith text).read? "api.json" = some text := by
  have hpath : FileTree.isPath "api.json" = true := by decide +kernel
  have hsteps : FileTree.steps "api.json" = ["api.json"] := by decide +kernel
  simp [FileTree.read?, hpath, hsteps, FileTree.start, FileTree.walk?, FileTree.isFolder,
    FileTree.file?, treeWith]

/-- The files of the command handler. -/
def handlerFile (target : Target) : GeneratedFile :=
  (target.generate Api.commandHandler { modulePath := "app" }).toOption.getD default

theorem generate_handlerFile (target : Target) :
    target.generate Api.commandHandler { modulePath := "app" } = .ok (handlerFile target) := by
  have hok : Succeeds (target.generate Api.commandHandler { modulePath := "app" }) := by
    cases target <;> exact Succeeds.of_isOk (by decide +kernel)
  obtain ⟨file, hfile⟩ := hok
  simp [handlerFile, hfile, Except.toOption]

theorem path_handlerFile (target : Target) : (handlerFile target).path =
    match target with
    | .wrapper => "internal/clib/main/clib.go"
    | .interfaces => "api/gen.go"
    | .stubs => "internal/clib/gen.go"
    | .header => "internal/clib/main/clib.h" := by
  rw [Target.path_eq generate_handlerFile]
  cases target <;> rfl

theorem landing_handlerFile (text : String) (target : Target) :
    landing (treeWith text) "gen" handlerFile target =
      match target with
      | .wrapper => ["home", "gen", "internal", "clib", "main", "clib.go"]
      | .interfaces => ["home", "gen", "api", "gen.go"]
      | .stubs => ["home", "gen", "internal", "clib", "gen.go"]
      | .header => ["home", "gen", "internal", "clib", "main", "clib.h"] := by
  have hhome : (treeWith text).home = (treeWith "").home := rfl
  rw [landing, path_handlerFile, FileTree.destination_congr hhome]
  cases target <;> decide +kernel

/-- The files of a request for the command handler can only be these. -/
theorem generates_handlerFile_iff {source : Source} {options : Generate}
    (hapi : loadApi? source options.api = some Api.commandHandler)
    (hlayout : loadLayout? source options = some { modulePath := "app" })
    {file : Target → GeneratedFile} :
    Generates source options file ↔ file = handlerFile := by
  refine ⟨?_, ?_⟩
  · rintro ⟨api, layout, hapi', hlayout', hfile⟩
    obtain rfl := Option.some.inj (hapi.symm.trans hapi')
    obtain rfl := Option.some.inj (hlayout.symm.trans hlayout')
    exact funext fun t => Except.ok.inj ((hfile t).symm.trans (generate_handlerFile t))
  · rintro rfl
    exact ⟨_, _, hapi, hlayout, generate_handlerFile⟩

/-- The command handler is generated twice. Without a folder its four files are printed and none is
written, and with one they stand below it. -/
theorem all_or_nothing_commandHandler :
    let tree := treeWith Api.commandHandler.toJson
    let arguments := ["generate", "--api", "api.json", "--module", "app"]
    let wrapper := (handlerFile .wrapper).content
    let interfaces := "// Code generated by portal. DO NOT EDIT.\n\npackage api\n\n"
      ++ "type CommandHandler interface \x7b\n\tExecute(command []byte) []byte\n\x7d\n"
    let stubs := (handlerFile .stubs).content
    let header := "#ifndef CLIB_H\n#define CLIB_H\n\n#include <stddef.h>\n\n"
      ++ "typedef long long longlong;\n\nvoid InitLibrary(void);\n\n/* CommandHandler */\n"
      ++ "char* CommandHandler_Execute(char* command);\n\n#endif /* CLIB_H */\n"
    run tree (arguments ++ ["--target", "all"]) =
      { code := 0
        printed := String.join
          ["// internal/clib/main/clib.go\n" ++ wrapper ++ "\n",
           "// api/gen.go\n" ++ interfaces ++ "\n",
           "// internal/clib/gen.go\n" ++ stubs ++ "\n",
           "// internal/clib/main/clib.h\n" ++ header ++ "\n"]
        tree } ∧
    ∃ after, run tree (arguments ++ ["--target", "all", "--out", "gen"]) =
      { code := 0
        printed := "Wrote: gen/internal/clib/main/clib.go\nWrote: gen/api/gen.go\n"
          ++ "Wrote: gen/internal/clib/gen.go\nWrote: gen/internal/clib/main/clib.h\n"
        tree := after } ∧
      after.file? ["home", "gen", "internal", "clib", "main", "clib.go"] = some (some wrapper) ∧
      after.file? ["home", "gen", "api", "gen.go"] = some (some interfaces) ∧
      after.file? ["home", "gen", "internal", "clib", "gen.go"] = some (some stubs) ∧
      after.file? ["home", "gen", "internal", "clib", "main", "clib.h"] = some (some header) := by
  intro tree arguments wrapper interfaces stubs header
  have hload : loadApi? tree.read? "api.json" = some Api.commandHandler :=
    loadApi?_of_read (read?_treeWith _) (Api.ofJson_toJson Api.commandHandler)
  have hputs (rest : List String) {out : Option String} {after : FileTree}
      (hparse : parse (arguments ++ rest) =
        .ok (.generate { api := "api.json", modulePath := some "app", out }))
      (hafter : afterWrites? tree (Target.all.map fun t => emit out (handlerFile t)) =
        some after) :
      (run tree (arguments ++ rest)).code = 0 ∧
        PutsOut tree handlerFile (run tree (arguments ++ rest)) out := by
    have hplan : plan tree.read? (.generate { api := "api.json", modulePath := some "app", out }) =
        { steps := Target.all.map fun t => emit out (handlerFile t) } := by
      rw [plan_of_loads hload rfl, planTargets_of_files fun t _ => generate_handlerFile t]
    rcases (all_or_nothing hparse rfl (by rw [hplan, hafter])).1 with
      ⟨file, hfile, hrun⟩ | ⟨hnone, -⟩
    · rwa [(generates_handlerFile_iff hload rfl).mp hfile] at hrun
    · exact absurd ((generates_handlerFile_iff hload rfl).mpr rfl) (hnone _)
  have hwrites : (afterWrites? tree
      (Target.all.map fun t => emit (some "gen") (handlerFile t))).isSome = true := by
    decide +kernel
  obtain ⟨after, hafter⟩ := Option.isSome_iff_exists.mp hwrites
  obtain ⟨hshown, hshownText, hshownTree⟩ :=
    hputs ["--target", "all"] (by decide +kernel) (afterWrites?_print _)
  obtain ⟨hsaved, hsavedText, hsavedFiles, -⟩ :=
    hputs ["--target", "all", "--out", "gen"] (by decide +kernel) hafter
  have hinterfaces : (handlerFile .interfaces).content = interfaces := by decide +kernel
  have hheader : (handlerFile .header).content = header := by decide +kernel
  refine ⟨Outcome.eq_mk hshown ?_ hshownTree, _, Outcome.eq_mk hsaved ?_ rfl, ?_, ?_, ?_, ?_⟩
  · rw [hshownText]
    simp only [List.map_cons, List.map_nil, path_handlerFile, hinterfaces, hheader,
      String.reduceAppend, wrapper, stubs]
  · rw [hsavedText]
    simp only [List.map_cons, List.map_nil, path_handlerFile]
    decide +kernel
  · have hplace := hsavedFiles .wrapper (by simp)
    rwa [landing_handlerFile] at hplace
  · have hplace := hsavedFiles .interfaces (by simp [tree, landing_handlerFile])
    rwa [landing_handlerFile, hinterfaces] at hplace
  · have hplace := hsavedFiles .stubs (by simp)
    rwa [landing_handlerFile] at hplace
  · have hplace := hsavedFiles .header (by simp)
    rwa [landing_handlerFile, hheader] at hplace

end Command
end Bindery
