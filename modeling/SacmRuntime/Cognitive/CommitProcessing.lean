import SacmRuntime.Cognitive.CommitIngestion

namespace SacmRuntime
namespace Cognitive
open Session CommitQueue

/-- What fails here fails without a clash in the store. -/
def NeverClashes {α : Type} (result : Except Error α) : Prop := ∀ error, result = .error error → Clashless error

section Analysis
variable {α β : Type} {env : Env} {git : Git} {d : CognitiveDb}

variable {f : α → Except Error β} {payload : CommitIngest} {result : Except Error α}

theorem NeverClashes.bind (first : NeverClashes result) (rest : ∀ a, NeverClashes (f a)) :
    NeverClashes (result >>= f) := by
  intro error failed
  cases result with
  | error found =>
    cases failed
    exact first _ rfl
  | ok a => exact rest a error failed

theorem neverClashes_ok (a : α) : NeverClashes (.ok a) := by
  intro error failed
  cases failed

theorem neverClashes_other (kind message : String) : NeverClashes (.error (.other kind message) : Except Error α) := by
  intro error failed
  cases failed
  exact clashless_other kind message

theorem neverClashes_output (repository : String) (arguments : List String) :
    NeverClashes (git.output repository arguments) := by
  unfold Git.output
  split
  · exact neverClashes_ok _
  · exact neverClashes_other _ _

theorem neverClashes_lines (repository : String) (arguments : List String) :
    NeverClashes (git.lines repository arguments) :=
  (neverClashes_output repository arguments).bind fun _ _ failed => clashless_safePaths failed

theorem neverClashes_analyze (project : CognitiveProject) (p : GitCommitAnalyze) :
    NeverClashes (analyze env git project p) := by
  unfold analyze
  refine NeverClashes.bind ?_ fun path => NeverClashes.bind ?_ fun repository =>
    (neverClashes_output repository _).bind fun commitHash => (neverClashes_output repository _).bind fun shown =>
    (neverClashes_lines repository _).bind fun files => (neverClashes_lines repository _).bind fun branches => ?_
  · unfold configuredPath
    split
    · exact neverClashes_ok _
    · exact neverClashes_other _ _
  · unfold Git.openAt
    split
    · exact neverClashes_ok _
    · exact neverClashes_other _ _
  · unfold checkIngest
    split
    · exact neverClashes_ok _
    · exact neverClashes_other _ _

theorem bind_ok {b : β} (returned : (result >>= f) = .ok b) :
    ∃ a, result = .ok a ∧ f a = .ok b := by
  cases result with
  | error found => cases returned
  | ok a => exact ⟨a, rfl, returned⟩

theorem output_ok {repository text : String} {arguments : List String}
    (returned : git.output repository arguments = .ok text) :
    git.run repository arguments = some text := by
  unfold Git.output at returned
  split at returned
  · rename_i printed ran
    cases returned
    exact ran
  · cases returned

structure Analyzed (git : Git) (project : CognitiveProject) (p : GitCommitAnalyze) (payload : CommitIngest) : Prop where
  valid : payload.valid = true
  dependencies : payload.dependencies = []
  tests : payload.tests = payload.files.filter isTestPath
  names : ∃ path repository, given project.repositoryPath = some path ∧ git.repository path = .ok repository ∧
    git.run repository (revision p.commitHash) = some payload.commitHash

theorem analyze_ok {project : CognitiveProject} {p : GitCommitAnalyze}
    (returned : analyze env git project p = .ok payload) : Analyzed git project p payload := by
  unfold analyze at returned
  obtain ⟨path, configured, returned⟩ := bind_ok returned
  obtain ⟨repository, opened, returned⟩ := bind_ok returned
  obtain ⟨commitHash, parsed, returned⟩ := bind_ok returned
  obtain ⟨shown, -, returned⟩ := bind_ok returned
  obtain ⟨files, -, returned⟩ := bind_ok returned
  obtain ⟨branches, -, returned⟩ := bind_ok returned
  unfold checkIngest at returned
  split at returned
  · rename_i valid
    cases returned
    refine ⟨valid, rfl, rfl, path, repository, ?_, ?_, output_ok parsed⟩
    · unfold configuredPath at configured
      split at configured
      · rename_i found
        cases configured
        exact found
      · cases configured
    · unfold Git.openAt at opened
      split at opened
      · rename_i found
        cases opened
        exact found
      · cases opened
  · cases returned

/-- What `analyze_and_ingest_git_commit` collects for a job. -/
def analysis (env : Env) (git : Git) (d : CognitiveDb) (job : CognitiveCommitJob) : Except Error CommitIngest :=
  match d.projects.find job.projectId with
  | some found => analyze env git found (requested job)
  | none => .error (notFound "Project not found.")

theorem analysis_ok {job : CognitiveCommitJob} (returned : analysis env git d job = .ok payload) :
    payload.valid = true ∧ payload.dependencies = [] ∧ payload.tests = payload.files.filter isTestPath ∧
      resolved git d.projects job = some payload.commitHash ∧ ∃ found, d.projects.find job.projectId = some found := by
  unfold analysis at returned
  cases known : d.projects.find job.projectId with
  | none =>
    rw [known] at returned
    cases returned
  | some found =>
    rw [known] at returned
    have analyzed := analyze_ok returned
    obtain ⟨path, repository, configured, opened, names⟩ := analyzed.names
    refine ⟨analyzed.valid, analyzed.dependencies, analyzed.tests, ?_, found, rfl⟩
    unfold resolved
    simp only [known, configured, opened, Option.bind_eq_bind, Option.bind_some, Except.toOption]
    exact names

theorem safePaths_filter {values paths : List String} (p : String → Bool) (read : safePaths values = .ok paths) :
    ∃ kept, safePaths (values.filter p) = .ok kept ∧ kept.Sublist paths := by
  induction values generalizing paths with
  | nil =>
    cases read
    exact ⟨[], rfl, .slnil⟩
  | cons value rest ih =>
    unfold safePaths at read
    obtain ⟨path, first, read⟩ := bind_ok read
    obtain ⟨others, later, read⟩ := bind_ok read
    cases read
    obtain ⟨kept, filtered, sublist⟩ := ih later
    by_cases keeps : p value = true
    · refine ⟨path :: kept, ?_, sublist.cons_cons _⟩
      rw [List.filter_cons_of_pos keeps]
      unfold safePaths
      rw [first, filtered]
      rfl
    · rw [List.filter_cons_of_neg keeps]
      exact ⟨kept, filtered, sublist.cons _⟩

theorem nodup_tests {facts : CommitFacts} (read : commitFacts env payload = .ok facts)
    (tests : payload.tests = payload.files.filter isTestPath) (files : facts.files.Nodup) : facts.tests.Nodup := by
  unfold commitFacts at read
  obtain ⟨paths, safe, read⟩ := bind_ok read
  obtain ⟨others, safeTests, read⟩ := bind_ok read
  cases read
  obtain ⟨kept, filtered, sublist⟩ := safePaths_filter isTestPath safe
  rw [tests, filtered] at safeTests
  cases safeTests
  exact sublist.nodup files

end Analysis

end Cognitive
end SacmRuntime
