import Bindery.Proofs.Outcome
import Bindery.Target

/-!
# Paths of generated files

The path of a file is a directory, a slash, a prefix and the name of the file. The directory and the
prefix are given by the layout and can hold any characters, slashes and dots among them, so nothing
can be said about where they end. But the names of the files differ before they end, seen from the
back. So a path gives back the name of its file and the text before it. Only the interfaces and the
stubs have files of one name.
-/
namespace Bindery
open GeneratedFile Outcome

/-- The prefix of the file names of a package, which is empty if none is given. -/
def Layout.stemPrefix (layout : Layout) (package : String) : String :=
  (layout.stemPrefixes.lookup (leafName package)).getD ""

theorem GeneratedFile.stem_eq (layout : Layout) (name package : String) :
    stem name (some (leafName package)) layout.stemPrefixes =
      layout.stemPrefix package ++ Text.lower name := by
  simp only [stem, Option.bind_some, Layout.stemPrefix]
  cases layout.stemPrefixes.lookup (leafName package) <;> simp

namespace Target
variable {s t : Target} {api : Api} {layout : Layout} {file : GeneratedFile}

/-- What stands in a path before the name of the file. -/
def lead (layout : Layout) (target : Target) : String :=
  directory (target.package layout) ++ "/" ++ layout.stemPrefix (target.owner layout)

/-- The name of a target's file, without any prefix. -/
def fileName (target : Target) : String := Text.lower target.stem ++ target.extension

theorem path_and_content (h : t.generate api layout = .ok file) :
    file.path = t.lead layout ++ t.fileName ∧ t.content api layout = .ok file.content := by
  obtain ⟨content, hcontent, hfile⟩ := bind_eq_ok.mp h
  obtain rfl := pure_eq_ok.mp hfile
  refine ⟨?_, hcontent⟩
  simp only [ofPackage, stem_eq, lead, fileName, String.append_assoc]

theorem fileName_eq (target : Target) : target.fileName =
    match target with
    | wrapper => "clib.go"
    | interfaces | stubs => "gen.go"
    | header => "clib.h" := by
  cases target <;> decide +kernel

/-- No name of a file is the end of another one. -/
theorem fileName_eq_of_suffix (h : s.fileName.toList <:+ t.fileName.toList) :
    s.fileName = t.fileName := by
  simp only [fileName_eq] at h ⊢
  cases s <;> cases t <;> revert h <;> decide +kernel

theorem append_fileName_inj {a b : String} :
    a ++ s.fileName = b ++ t.fileName ↔ a = b ∧ s.fileName = t.fileName := by
  constructor
  · intro h
    have hs : s.fileName.toList <:+ (a ++ s.fileName).toList := by simp
    have ht : t.fileName.toList <:+ (a ++ s.fileName).toList := by simp [h]
    have hname : s.fileName = t.fileName := by
      rcases List.suffix_or_suffix_of_suffix hs ht with hst | hts
      · exact fileName_eq_of_suffix hst
      · exact (fileName_eq_of_suffix hts).symm
    rw [hname] at h
    exact ⟨(String.append_left_inj _).mp h, hname⟩
  · rintro ⟨rfl, hname⟩
    rw [hname]

theorem slash_not_mem_fileName (target : Target) : '/' ∉ target.fileName.toList := by
  rw [fileName_eq]
  cases target <;> decide +kernel

/-- One of two targets is the interfaces and the other one is the stubs. -/
def Twins (s t : Target) : Prop :=
  (s = interfaces ∧ t = stubs) ∨ (s = stubs ∧ t = interfaces)

/-- No two targets have the same value, other than the interfaces and the stubs. -/
def Apart {α : Type} (value : Target → α) : Prop :=
  ∀ s t, value s = value t → s = t ∨ Twins s t

theorem Apart.eq_iff {α : Type} {value : Target → α} (h : Apart value) :
    value s = value t ↔ s = t ∨ Twins s t ∧ value interfaces = value stubs := by
  constructor
  · intro heq
    rcases h s t heq with hst | htwins
    · exact .inl hst
    · rcases id htwins with ⟨rfl, rfl⟩ | ⟨rfl, rfl⟩
      · exact .inr ⟨htwins, heq⟩
      · exact .inr ⟨htwins, heq.symm⟩
  · rintro (rfl | ⟨⟨rfl, rfl⟩ | ⟨rfl, rfl⟩, heq⟩)
    · rfl
    · exact heq
    · exact heq.symm

theorem eq_or_twins (h : s.fileName = t.fileName) : s = t ∨ Twins s t := by
  simp only [fileName_eq] at h
  cases s <;> cases t <;> first
    | exact .inl rfl
    | exact .inr (.inl ⟨rfl, rfl⟩)
    | exact .inr (.inr ⟨rfl, rfl⟩)
    | exact absurd h (by decide +kernel)

section
variable {file : Target → GeneratedFile}
  (hfile : ∀ target : Target, target.generate api layout = .ok (file target))
include hfile

theorem path_eq (target : Target) :
    (file target).path = target.lead layout ++ target.fileName :=
  (path_and_content (hfile target)).1

theorem apart_path : Apart fun target => (file target).path := by
  intro s t h
  simp only [path_eq hfile] at h
  exact eq_or_twins (append_fileName_inj.mp h).2

theorem path_interfaces_eq_path_stubs_iff :
    (file interfaces).path = (file stubs).path ↔ lead layout interfaces = lead layout stubs := by
  rw [path_eq hfile, path_eq hfile, append_fileName_inj]
  exact and_iff_left rfl

/-- The file of the interfaces begins with a comment, and the stubs begin with their package. -/
theorem content_interfaces_ne_content_stubs :
    (file interfaces).content ≠ (file stubs).content := by
  have hinterfaces := (path_and_content (hfile interfaces)).2
  have hstubs := (path_and_content (hfile stubs)).2
  simp only [content, Host.package, Host.stubs, bind_eq_ok, pure_eq_ok]
    at hinterfaces hstubs
  obtain ⟨_, -, structs, -, texts, -, hinterfaces⟩ := hinterfaces
  obtain ⟨_, -, others, -, hstubs⟩ := hstubs
  rw [hinterfaces, hstubs]
  intro h
  have hhead := congrArg (fun text => text.toList.head?) h
  simp [Text.lines, toString] at hhead

end
end Target
end Bindery
