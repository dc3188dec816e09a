import SacmRuntime.Runtime.ExecutorBoundary

namespace SacmRuntime
open ExecutorBoundary IsolatedCommandRunner CustomerExecutorDaemon

/-- A URI with a host, which is one of the outbound destinations. -/
def PointsInside (host : RunnerHost) (boundary : ExecutorBoundary) (uri : String) : Prop :=
  ∃ parsed name, host.urlsplit uri = .ok parsed ∧ present parsed.hostname = some name ∧
    host.lower name ∈ boundary.outboundAllowlist.map (normalized host.lower)

/-- A URI of a place outside, which is not resolved as a path. -/
def Remote (host : RunnerHost) (uri : String) (parsed : SplitUrl) : Prop :=
  host.urlsplit uri = .ok parsed ∧ parsed.scheme ∈ remoteSchemes

/-- The path names a file inside the workspace when every link is followed. -/
def NamesFile (host : RunnerHost) (root : List FileName) (uri : String) (content : List UInt8) : Prop :=
  ∃ place mode, resolve host uri = .ok place ∧ root <+: place ∧ host.tree place = some (.file content mode)

structure LeavesAllowed (host : RunnerHost) (boundary : ExecutorBoundary) (root : List FileName)
    (before after : ArtifactReference) : Prop where
  remote : ∀ uri, present after.uri = some uri → PointsInside host boundary uri
  file : ∀ uri, present before.uri = some uri → present after.uri = none →
    ∃ content, NamesFile host root uri content ∧ after.sha256 = some (host.sha256 content)
  hashed : ∃ sha256, after.sha256 = some sha256 ∧ sha256.length = 64

/-- All references leave as the boundary allows, under the identity of the task. -/
structure ResultAllowed (host : RunnerHost) (boundary : ExecutorBoundary) (root : List FileName)
    (before after : RunnerResult) (runId stepId : String) : Prop where
  artifacts : List.Forall₂ (LeavesAllowed host boundary root) before.artifacts after.artifacts
  evidence : List.Forall₂ (LeavesAllowed host boundary root) before.evidence after.evidence
  run : after.runId = runId
  step : after.stepId = stepId
  closed : boundary.deploymentType = .airGapped ∨ boundary.outboundAllowlist = [] →
    ∀ reference ∈ after.artifacts ++ after.evidence, present reference.uri = none

/-- There is a list of destinations to compare a remote URI with, and a host to compare. -/
def Covered (host : RunnerHost) (boundary : ExecutorBoundary) (reference : ArtifactReference) : Prop :=
  ∀ uri parsed, present reference.uri = some uri → Remote host uri parsed →
    boundary.outboundAllowlist ≠ [] ∧ (present parsed.hostname).isSome

section
variable {host : RunnerHost} {boundary : ExecutorBoundary} {root : List FileName} {before after : ArtifactReference}

theorem present_some {value : Option String} {text : String} :
    present value = some text ↔ value = some text ∧ text ≠ "" := by
  unfold present
  rw [Option.filter_eq_some_iff]
  simp

section
variable (ok : sanitizeReference host boundary root before = .ok after)
include ok

/-- How a reference goes through: it had no URI, its URI is remote and stays,
or it named a file whose hash it now carries. -/
theorem sanitizeReference_ok :
    (present before.uri = none ∧ after = before) ∨
    (∃ uri parsed, present before.uri = some uri ∧ Remote host uri parsed ∧ after = before ∧
      (boundary.outboundAllowlist ≠ [] →
        host.lower (parsed.hostname.getD "") ∈ boundary.outboundAllowlist.map (normalized host.lower))) ∨
    ∃ uri content, present before.uri = some uri ∧ (∀ parsed, ¬Remote host uri parsed) ∧
      NamesFile host root uri content ∧ after.uri = none ∧ after.sha256 = some (host.sha256 content) := by
  unfold sanitizeReference at ok
  split at ok
  · rename_i absent
    split at ok
    · cases ok
    · cases ok
      exact Or.inl ⟨absent, rfl⟩
  · rename_i uri found
    obtain ⟨parsed, split, ok⟩ := Checked.bind_ok ok
    have split : host.urlsplit uri = .ok parsed := by
      cases splitted : host.urlsplit uri with
      | ok value =>
        rw [splitted] at split
        cases split
        rfl
      | error e =>
        rw [splitted] at split
        cases split
    split at ok
    · rename_i remote
      unfold sanitizeRemote at ok
      simp only at ok
      split at ok
      · cases ok
      rename_i approved
      split at ok
      · cases ok
      · cases ok
        refine Or.inr (Or.inl ⟨uri, parsed, found, ⟨split, remote⟩, rfl, fun filled => ?_⟩)
        by_contra outside
        exact approved ⟨by simpa using filled, outside⟩
    · rename_i other
      unfold sanitizeFile at ok
      obtain ⟨place, resolved, ok⟩ := Checked.bind_ok ok
      split at ok
      · cases ok
      rename_i inside
      obtain ⟨content, bytes, ok⟩ := Checked.bind_ok ok
      cases ok
      refine Or.inr (Or.inr ⟨uri, content, found, ?_, ⟨place, ?_⟩, rfl, rfl⟩)
      · rintro again ⟨same, remote⟩
        rw [split] at same
        cases same
        exact other remote
      · unfold readBytes at bytes
        split at bytes
        · rename_i written mode atPlace
          split at bytes
          · cases bytes
            exact ⟨mode, resolved, not_not.mp inside, atPlace⟩
          · cases bytes
        · cases bytes
        · cases bytes
        · cases bytes

theorem leavesAllowed_of_covered (hashed : ∃ sha256, after.sha256 = some sha256 ∧ sha256.length = 64)
    (covered : Covered host boundary before) :
    LeavesAllowed host boundary root before after := by
  rcases sanitizeReference_ok ok with ⟨absent, rfl⟩ | ⟨uri, parsed, found, remote, rfl, approved⟩ |
    ⟨uri, content, found, _, names, gone, hash⟩
  · refine ⟨fun uri found => ?_, fun uri found => ?_, hashed⟩
    · rw [absent] at found
      cases found
    · rw [absent] at found
      cases found
  · obtain ⟨filled, named⟩ := covered uri parsed found remote
    obtain ⟨name, atHost⟩ := Option.isSome_iff_exists.mp named
    refine ⟨fun other again => ?_, fun other _ absent => ?_, hashed⟩
    · have same := Option.some.inj (found.symm.trans again)
      subst same
      refine ⟨parsed, name, remote.1, atHost, ?_⟩
      have listed := approved filled
      rw [(present_some.mp atHost).1] at listed
      exact listed
    · rw [found] at absent
      cases absent
  · refine ⟨fun other again => ?_, fun other again _ => ?_, hashed⟩
    · rw [gone] at again
      cases again
    · have same := Option.some.inj (found.symm.trans again)
      subst same
      exact ⟨content, names, hash⟩

theorem covered_of_leavesAllowed (allowed : LeavesAllowed host boundary root before after) :
    Covered host boundary before := by
  intro uri parsed found remote
  rcases sanitizeReference_ok ok with ⟨absent, _⟩ | ⟨other, _, again, _, rfl, _⟩ | ⟨other, _, again, local_, _⟩
  · rw [absent] at found
    cases found
  · obtain ⟨parsed', name, split, named, listed⟩ := allowed.remote uri found
    have same := Except.ok.inj (remote.1.symm.trans split)
    subst same
    refine ⟨fun empty => ?_, Option.isSome_iff_exists.mpr ⟨name, named⟩⟩
    rw [empty] at listed
    cases listed
  · have same := Option.some.inj (found.symm.trans again)
    subst same
    exact absurd remote (local_ parsed)

end

variable {afters befores : List ArtifactReference}

theorem allowed_iff_covered (ok : befores.mapM (sanitizeReference host boundary root) = .ok afters)
    (hashed : ∀ reference ∈ afters, ∃ sha256, reference.sha256 = some sha256 ∧ sha256.length = 64) :
    List.Forall₂ (LeavesAllowed host boundary root) befores afters ↔
      ∀ reference ∈ befores, Covered host boundary reference := by
  induction befores generalizing afters with
  | nil =>
    cases ok
    simp
  | cons first rest ih =>
    rw [List.mapM_cons] at ok
    obtain ⟨sent, atFirst, ok⟩ := Checked.bind_ok ok
    obtain ⟨later, atRest, ok⟩ := Checked.bind_ok ok
    cases ok
    have firstHash := hashed sent List.mem_cons_self
    rw [List.forall₂_cons, List.forall_mem_cons,
      ih atRest fun reference member => hashed reference (List.mem_cons_of_mem _ member)]
    exact and_congr_left' ⟨covered_of_leavesAllowed atFirst, leavesAllowed_of_covered atFirst firstHash⟩

theorem validateResult_ok {result : RunnerResult} {runId stepId : String}
    (ok : validateResult result runId stepId = .ok ()) : result.runId = runId ∧ result.stepId = stepId ∧
      ∀ reference ∈ result.artifacts ++ result.evidence,
        ∃ sha256, reference.sha256 = some sha256 ∧ sha256.length = 64 := by
  unfold validateResult at ok
  split at ok
  · cases ok
  rename_i identity
  split at ok
  · cases ok
  rename_i addressed
  rw [not_or, not_not, not_not] at identity
  refine ⟨identity.1, identity.2, fun reference member => ?_⟩
  by_contra unhashed
  refine addressed ⟨reference, member, fun sha256 found length => unhashed ?_⟩
  exact ⟨sha256, (present_some.mp found).1, length⟩

theorem validateBoundary_airGapped (valid : validateBoundary host boundary = .ok ())
    (airGapped : boundary.deploymentType = .airGapped) : boundary.outboundAllowlist = [] := by
  unfold validateBoundary at valid
  split at valid
  · cases valid
  split at valid
  · cases valid
  split at valid
  · cases valid
  split at valid
  · cases valid
  · rename_i empty
    by_contra filled
    exact empty ⟨airGapped, filled⟩

theorem LeavesAllowed.closed (empty : boundary.outboundAllowlist = [])
    (allowed : List.Forall₂ (LeavesAllowed host boundary root) befores afters) :
    ∀ reference ∈ afters, present reference.uri = none := by
  induction allowed with
  | nil => simp
  | @cons before after befores afters leaves _ ih =>
    rw [List.forall_mem_cons]
    refine ⟨?_, ih⟩
    cases found : present after.uri with
    | none => rfl
    | some uri =>
      obtain ⟨parsed, name, _, _, listed⟩ := leaves.remote uri found
      rw [empty] at listed
      cases listed

/-- An accepted result leaves as the boundary allows exactly when each of its
references is covered. -/
theorem result_allowed {workspace runId stepId : String} {result sent : RunnerResult}
    (valid : validateBoundary host boundary = .ok ()) (rooted : resolve host workspace = .ok root)
    (sanitized : sanitizeArtifacts host boundary workspace result = .ok sent)
    (validated : validateResult sent runId stepId = .ok ()) :
    ResultAllowed host boundary root result sent runId stepId ↔
      ∀ reference ∈ result.artifacts ++ result.evidence, Covered host boundary reference := by
  unfold sanitizeArtifacts at sanitized
  obtain ⟨root', rooted', sanitized⟩ := Checked.bind_ok sanitized
  obtain ⟨artifacts, atArtifacts, sanitized⟩ := Checked.bind_ok sanitized
  obtain ⟨evidence, atEvidence, sanitized⟩ := Checked.bind_ok sanitized
  have same : root' = root := Except.ok.inj (rooted'.symm.trans rooted)
  rw [same] at atArtifacts atEvidence
  cases sanitized
  obtain ⟨run, step, hashed⟩ := validateResult_ok validated
  have artifactsIff := allowed_iff_covered atArtifacts fun reference member =>
    hashed reference (List.mem_append_left _ member)
  have evidenceIff := allowed_iff_covered atEvidence fun reference member =>
    hashed reference (List.mem_append_right _ member)
  rw [List.forall_mem_append, ← artifactsIff, ← evidenceIff]
  refine ⟨fun allowed => ⟨allowed.artifacts, allowed.evidence⟩, fun both => ⟨both.1, both.2, run, step, fun none => ?_⟩⟩
  have empty : boundary.outboundAllowlist = [] := none.elim (validateBoundary_airGapped valid) id
  exact List.forall_mem_append.mpr ⟨LeavesAllowed.closed empty both.1, LeavesAllowed.closed empty both.2⟩

end

namespace BoundarySample

def hash : String := "0000000000000000000000000000000000000000000000000000000000000000"

/-- The workspace `/w` with one file in it. -/
def tree : FileTree := fun place =>
  if place = [['w']] then some .directory
  else if place = [['w'], ['a']] then some (.file [1] 0o600)
  else none

def host : RunnerHost where
  tree := tree
  steps := 40
  cwd := [['d']]
  access := ⟨fun _ => true, fun _ => true, 0o600, rfl⟩
  sha256 _ := hash
  lower := id
  urlsplit uri :=
    if uri = "https://drop.example/x" then .ok ⟨"https", some "drop.example", none, none⟩
    else .ok ⟨"", none, none, none⟩

def boundary (kind : DeploymentType) (allowlist : List String) : ExecutorBoundary :=
  ⟨kind, "boundary", "eu", allowlist, none⟩

def uploaded : ArtifactReference :=
  { artifactType := "output", uri := some "https://drop.example/x", sha256 := some hash }

def written : ArtifactReference := { artifactType := "output", uri := some "/w/a" }

def sent : ArtifactReference :=
  { artifactType := "output", sha256 := some hash, metadata := [("transport", .str "hash-only")] }

end BoundarySample

open BoundarySample in
theorem result_allowed_sample :
    ResultAllowed host (boundary .vpc ["drop.example:443"]) [['w']] ⟨"run", "step", [uploaded], [written]⟩
        ⟨"run", "step", [uploaded], [sent]⟩ "run" "step" := by
  have valid : validateBoundary host (boundary .vpc ["drop.example:443"]) = .ok () := by decide +kernel
  have rooted : resolve host "/w" = .ok [['w']] := by decide +kernel
  have sanitized : sanitizeArtifacts host (boundary .vpc ["drop.example:443"]) "/w"
      ⟨"run", "step", [uploaded], [written]⟩ = .ok ⟨"run", "step", [uploaded], [sent]⟩ := rfl
  refine (result_allowed valid rooted sanitized (by decide +kernel)).mpr fun reference member uri parsed given
    remote => ?_
  refine ⟨by decide, ?_⟩
  rcases List.mem_pair.mp member with rfl | rfl <;> cases given <;> cases remote.1
  · rfl
  · exact absurd remote.2 (by decide)

open BoundarySample in
/-- An air-gapped executor sends the URI of a place outside. -/
theorem upload_passed : validateBoundary host (boundary .airGapped []) = .ok () ∧
    sanitizeArtifacts host (boundary .airGapped []) "/w" ⟨"run", "step", [uploaded], []⟩ =
      .ok ⟨"run", "step", [uploaded], []⟩ ∧
    validateResult ⟨"run", "step", [uploaded], []⟩ "run" "step" = .ok () ∧
    ¬ResultAllowed host (boundary .airGapped []) [['w']] ⟨"run", "step", [uploaded], []⟩
        ⟨"run", "step", [uploaded], []⟩ "run" "step" := by
  refine ⟨by decide +kernel, rfl, by decide +kernel, fun allowed => ?_⟩
  have closed := allowed.closed (Or.inl rfl) uploaded List.mem_cons_self
  have remote : present uploaded.uri = some "https://drop.example/x" := by decide +kernel
  rw [remote] at closed
  cases closed

end SacmRuntime
