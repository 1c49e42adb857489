import TcdOran.Harness.SequencePlan

/-! From the runtime profile of an experiment to the supervisor: what the binding builder writes, the
plan builder takes, and what the plan builder writes, the supervisor loads. -/
namespace TcdOran.Harness.ProductionPlan
open TcdOran.Lib Python ProductionBinding SequencePlan

/-- A word that both builders let pass. -/
def Word (value : List ℕ) : Prop := value ≠ [] ∧ 0 ∉ value

instance (value : List ℕ) : Decidable (Word value) := inferInstanceAs (Decidable (_ ∧ _))

theorem word_of_operand {value : List ℕ} (h : Operand value) : Word value := by
  refine ⟨?_, h.noNul⟩
  rintro rfl
  obtain ⟨u, hu, -⟩ := h.head
  cases hu

theorem noNul_append {front behind : List ℕ} (hfront : 0 ∉ front) (hbehind : 0 ∉ behind) :
    0 ∉ front ++ behind := by
  rw [List.mem_append, not_or]
  exact ⟨hfront, hbehind⟩

/-! ### What else is known of an accepted profile -/

section
variable {host : Host} {members : Members} {profile : Profile}

theorem validateProfile_data (h : validateProfile host members = .ok profile) (data : DataName) :
    Clean (profile.data data) := by
  unfold validateProfile at h
  simp only [bind_eq_ok, require_eq_ok] at h
  obtain ⟨_, _, _, _, _, _, _, _, _, _, h⟩ := h
  obtain ⟨_, _, _, _, _, _, _, _, h⟩ := h
  obtain ⟨_, _, _, _, _, _, _, _, h⟩ := h
  obtain ⟨_, _, _, _, _, _, _, _, _, _, h⟩ := h
  obtain ⟨_, _, _, _, _, _, dataList, hdata, _, _, h⟩ := h
  obtain ⟨_, _, _, _, _, _, _, _, h⟩ := h
  obtain ⟨_, _, _, _, h⟩ := h
  cases h
  exact clean_entry (clean_of_mapM hdata fun _ _ => requireAbsolutePath_clean) data

/-- The name and the parent of the path are compared, so that it has no NUL either. -/
theorem ratioBindingPath_clean {runDirectory path : Handoff.AbsolutePath} {item : Json} {index : ℕ}
    (hrun : Clean runDirectory) (h : ratioBindingPath runDirectory item index = .ok path) :
    Clean path := by
  cases item with
  | str text =>
    simp only [ratioBindingPath, require_bind_eq_ok] at h
    obtain ⟨-, -, hname, hparent, h⟩ := h
    cases h
    have hdirectory : Clean (joinPath runDirectory [chars "runtime", chars "ratio-bindings"]) :=
      clean_joinPath hrun (by decide)
    rw [← hparent] at hdirectory
    generalize Handoff.absolutePath root text = path at *
    intro name hmem
    cases hlast : path.names.getLast? with
    | none =>
      rw [List.getLast?_eq_none_iff.mp hlast] at hmem
      cases hmem
    | some last =>
      obtain ⟨front, hnames⟩ := List.getLast?_eq_some_iff.mp hlast
      rw [Handoff.lastName, hlast, Option.getD_some] at hname
      rw [hnames, List.mem_append, List.mem_singleton] at hmem
      rcases hmem with hfront | rfl
      · refine hdirectory name ?_
        rw [hnames, List.dropLast_concat]
        exact hfront
      · rw [hname]
        exact noNul_append (noNul_transitionLabel index) (by decide)
  | _ => cases h

theorem acceptProfile_paths (h : acceptProfile host members = .ok profile) :
    (∀ data, Clean (profile.data data)) ∧ ∀ path ∈ profile.ratioBindingPaths, Clean path := by
  obtain ⟨validated, hvalidated, h⟩ := bind_eq_ok.mp h
  obtain ⟨paths, hpaths, h⟩ := bind_eq_ok.mp h
  cases h
  have hdata := validateProfile_data hvalidated
  refine ⟨hdata, ?_⟩
  obtain ⟨items, -, hpaths⟩ := bind_eq_ok.mp hpaths
  obtain ⟨found, hfound, hpaths⟩ := bind_eq_ok.mp hpaths
  rw [require_bind_eq_ok] at hpaths
  obtain ⟨-, hpaths⟩ := hpaths
  cases hpaths
  exact clean_of_mapM hfound fun _ _ =>
    ratioBindingPath_clean (validateProfile_accepted hvalidated).runDirectory

end

/-! ### The commands -/

section
variable {profile : Profile} (h : profile.Accepted)
include h

end

/-! ### The binding -/

section
variable {host : Host} {members : Members} {profile : Profile} {binding : Binding}

end

end TcdOran.Harness.ProductionPlan
