import Bindery.Command.Run
import Bindery.Proofs.Command.Places
import Bindery.Proofs.Target.Paths

/-!
# What a run writes

The files of all targets are put out one after the other. What is written last to a place stays
there, so it has to be known which files share a place: none but the interfaces and the stubs, as
the names of all other files differ. Here plans and their steps are followed up to what is printed
and to what every place holds in the end.
-/
namespace Bindery.Command

variable {api : Api} {layout : Layout} {file : Target → GeneratedFile}
variable {tree after : FileTree} {folder : String}

/-! ## Plans -/

theorem planTargets_of_files {targets : List Target}
    (hfile : ∀ target ∈ targets, target.generate api layout = .ok (file target))
    (out : Option String) :
    planTargets api layout out targets = { steps := targets.map fun t => emit out (file t) } := by
  induction targets with
  | nil => rfl
  | cons target targets ih =>
    obtain ⟨hfirst, hrest⟩ := List.forall_mem_cons.mp hfile
    simp only [planTargets, hfirst, ih hrest, List.map_cons]

theorem plan_of_loads {source : Source} {options : Generate}
    (hapi : loadApi? source options.api = some api)
    (hlayout : loadLayout? source options = some layout) :
    plan source (.generate options) = planTargets api layout options.out options.targets := by
  simp only [plan, hapi, hlayout]

/-! ## Steps that are carried out -/

/-- The tree after all files of the steps are written, if each of them can be. -/
def afterWrites? (tree : FileTree) : List Step → Option FileTree
  | [] => some tree
  | .print _ :: steps => afterWrites? tree steps
  | .write path content :: steps =>
    (tree.write? path (some content)).bind fun next => afterWrites? next steps

/-- What a step prints once it is done. -/
def Step.said : Step → String
  | .print text => text
  | .write path _ => written path

theorem carryOut_of_afterWrites? {steps : List Step}
    (h : afterWrites? tree steps = some after) (printed : String) (fails : Bool) :
    carryOut tree printed fails steps =
      { code := if fails then 1 else 0
        printed := printed ++ String.join (steps.map Step.said)
        tree := after } := by
  induction steps generalizing tree printed with
  | nil =>
    obtain rfl := Option.some.inj h
    simp [carryOut, String.join]
  | cons step steps ih =>
    cases step with
    | print text =>
      rw [carryOut, ih h, String.append_assoc]
      simp [Step.said, String.join_cons]
    | write path content =>
      obtain ⟨next, hnext, hrest⟩ := Option.bind_eq_some_iff.mp h
      simp only [carryOut, hnext]
      rw [ih hrest, String.append_assoc]
      simp [Step.said, String.join_cons]

theorem run_of_afterWrites? {arguments : List String} {request : Request}
    (hparse : parse arguments = .ok request)
    (hwrites : afterWrites? tree (plan tree.read? request).steps = some after) :
    run tree arguments =
      { code := if (plan tree.read? request).fails then 1 else 0
        printed := String.join ((plan tree.read? request).steps.map Step.said)
        tree := after } := by
  simp only [run, hparse]
  rw [carryOut_of_afterWrites? hwrites, String.empty_append]

theorem afterWrites?_print (targets : List Target) :
    afterWrites? tree (targets.map fun t => emit none (file t)) = some tree := by
  induction targets with
  | nil => rfl
  | cons target targets ih => exact ih

/-! ## Places of the four files -/

open Target FileTree

/-- Where the file of a target goes when it is written below a folder. -/
def landing (tree : FileTree) (folder : String) (file : Target → GeneratedFile)
    (target : Target) : Place :=
  tree.destination (joinPath folder (file target).path)

/-- What is written last to a place stays there, and all other places are as they were. -/
theorem file?_of_afterWrites? {targets : List Target}
    (h : afterWrites? tree (targets.map fun t => emit (some folder) (file t)) = some after)
    (place : Place) :
    after.file? place =
      match targets.reverse.find? fun t => landing tree folder file t = place with
      | some t => some (some (file t).content)
      | none => tree.file? place := by
  induction targets generalizing tree with
  | nil =>
    obtain rfl := Option.some.inj h
    rfl
  | cons t targets ih =>
    obtain ⟨next, hnext, hrest⟩ := Option.bind_eq_some_iff.mp h
    have hset : Sets tree next (landing tree folder file t) (some (file t).content) :=
      sets_of_write? hnext
    have hlanding : landing next folder file = landing tree folder file :=
      funext fun u => destination_congr hset.home _
    rw [ih hrest, hlanding, List.reverse_cons, List.find?_append]
    cases targets.reverse.find? fun u => landing tree folder file u = place with
    | some u => rfl
    | none =>
      by_cases hplace : place = landing tree folder file t
      · simp [hset.file, hplace]
      · simp [hset.file, hplace, Ne.symm hplace]

theorem file?_of_not_landing {targets : List Target}
    (h : afterWrites? tree (targets.map fun t => emit (some folder) (file t)) = some after)
    {place : Place} (hplace : ∀ t ∈ targets, landing tree folder file t ≠ place) :
    after.file? place = tree.file? place := by
  have hnone : targets.reverse.find? (fun t => landing tree folder file t = place) = none := by
    simpa using hplace
  rw [file?_of_afterWrites? h, hnone]

theorem apart_landing
    (hfile : ∀ target : Target, target.generate api layout = .ok (file target))
    (tree : FileTree) (folder : String) : Apart (landing tree folder file) := by
  have hlast (target : Target) : ∃ start,
      (landing tree folder file target).getLast? = some (start ++ target.fileName) := by
    obtain ⟨front, hfront⟩ := exists_joinPath_eq_append folder (file target).path
    rw [landing, hfront, path_eq hfile, ← String.append_assoc]
    exact tree.exists_getLast?_destination _ (slash_not_mem_fileName target)
  intro s t h
  obtain ⟨a, ha⟩ := hlast s
  obtain ⟨b, hb⟩ := hlast t
  rw [h, hb] at ha
  exact eq_or_twins (append_fileName_inj.mp (Option.some.inj ha)).2.symm

/-- The last of some targets at the place of a given one: the stubs come after the interfaces. -/
theorem find?_reverse_of_apart {place : Target → Place} (h : Apart place) {done : List Target}
    (hdone : done <+: Target.all) {t : Target} (ht : t ∈ done) :
    done.reverse.find? (fun u => place u = place t) =
      some (if t = interfaces ∧ stubs ∈ done ∧ place interfaces = place stubs then stubs
        else t) := by
  -- What is done is one of five lists, so the last target at a place can be looked up.
  simp only [Target.all, List.prefix_cons_iff, List.prefix_nil] at hdone
  by_cases hsame : place interfaces = place stubs
  · have heq (s t : Target) : place s = place t ↔ s = t ∨ Twins s t :=
      h.eq_iff.trans (by simp [hsame])
    rcases hdone with rfl | ⟨_, rfl, rfl | ⟨_, rfl, rfl | ⟨_, rfl, rfl | ⟨_, rfl, rfl⟩⟩⟩⟩ <;>
      cases t <;> simp_all [Twins]
  · have heq (s t : Target) : place s = place t ↔ s = t :=
      h.eq_iff.trans (by simp [hsame])
    rcases hdone with rfl | ⟨_, rfl, rfl | ⟨_, rfl, rfl | ⟨_, rfl, rfl | ⟨_, rfl, rfl⟩⟩⟩⟩ <;>
      cases t <;> simp_all

/-- Of the files that are written, the interfaces alone can be replaced, and only by the stubs. -/
theorem file?_landing
    (hfile : ∀ target : Target, target.generate api layout = .ok (file target))
    {done : List Target} (hdone : done <+: Target.all)
    (h : afterWrites? tree (done.map fun t => emit (some folder) (file t)) = some after)
    {t : Target} (ht : t ∈ done) :
    after.file? (landing tree folder file t) = some (some (file
      (if t = interfaces ∧ stubs ∈ done ∧
          landing tree folder file interfaces = landing tree folder file stubs then stubs
        else t)).content) := by
  rw [file?_of_afterWrites? h, find?_reverse_of_apart (apart_landing hfile tree folder) hdone ht]

end Bindery.Command
