import SacmRuntime.Runtime.EvidenceTampering

namespace SacmRuntime
open Tx
namespace EvidenceService
open Redaction

section
variable {Bytes : Type}

/-- The call added no pack; it may have left files in the directory it chose. -/
structure Abandoned (call : BuildCall Bytes) (d e : EvidenceDb Bytes) : Prop where
  packs : e.packs = d.packs
  elsewhere : ∀ name, name ≠ directoryName d call → e.storage name = d.storage name
  tidy : (d.storage (directoryName d call)).Tidy fileNames → (e.storage (directoryName d call)).Tidy fileNames

structure Inserted (env : EvidenceEnv Bytes) (call : BuildCall Bytes) (d e : EvidenceDb Bytes) (pack : EvidencePack)
    (content : RunContent Bytes) (signed : Option SignedStatement) (directory : Directory Bytes) : Prop where
  gathered : call.gathered = .ok content
  root : env.inRoot (directoryName d call) = true
  signature : writeSignature env call.rules call.signing
    (writeContent env call.rules content (d.storage (directoryName d call))) = .ok (signed, directory)
  row : pack = newPack env d call signed
    (((writeChecksums env directory).read "run-manifest.json").map env.sha256 |>.getD "")
  packs : e.packs = d.packs ++ [pack]
  storage : e.storage = Function.update d.storage (directoryName d call) (writeChecksums env directory)

/-- Whether it raises or returns, a call adds a pack or leaves files only. -/
def Outcome (env : EvidenceEnv Bytes) (call : BuildCall Bytes) (d : EvidenceDb Bytes)
    (outcome : Except Error EvidencePack × EvidenceDb Bytes) : Prop :=
  Abandoned call d outcome.2 ∨
    ∃ pack content signed directory, Inserted env call d outcome.2 pack content signed directory

variable {env : EvidenceEnv Bytes} {call : BuildCall Bytes} {d : EvidenceDb Bytes}

theorem newPack_storage {signed : Option SignedStatement} {hash : String} {storage : String → Directory Bytes} :
    newPack env { d with storage := storage } call signed hash = newPack env d call signed hash := rfl

theorem build_outcome : Outcome env call d (build env call d) := by
  have same : Abandoned call d d := ⟨rfl, fun _ _ => rfl, id⟩
  have wrote : ∀ directory : Directory Bytes,
      ((d.storage (directoryName d call)).Tidy fileNames → directory.Tidy fileNames) →
        Abandoned call d { d with storage := Function.update d.storage (directoryName d call) directory } := by
    intro directory tidy
    refine ⟨rfl, fun name other => Function.update_of_ne other _ _, fun leftover => ?_⟩
    simpa using tidy leftover
  unfold build
  apply outcome_ofExcept fun _ => .inl same
  intro _ _
  apply outcome_read
  apply outcome_ofExcept fun _ => .inl same
  intro _ inside
  have root : env.inRoot (directoryName d call) = true := by
    by_contra outside
    rw [if_neg outside] at inside
    cases inside
  apply outcome_ofExcept fun _ => .inl same
  intro content gathered
  rw [bind_shift_run, bind_read_run]
  apply outcome_ofExcept fun _ => .inl (wrote _ writeContent_tidy)
  rintro ⟨signed, directory⟩ signature
  simp only [EvidenceDb.withDirectory, Function.update_self] at signature
  rw [bind_shift_run, bind_read_run]
  simp only [EvidenceDb.withDirectory, Function.update_idem, Function.update_self]
  have listed : (d.storage (directoryName d call)).Tidy fileNames → (writeChecksums env directory).Tidy fileNames := by
    intro leftover
    exact (writeSignature_tidy (writeContent_tidy leftover) signature).write (by decide)
  apply outcome_ofExcept fun _ => .inl (wrote _ listed)
  intro _ _
  rw [bind_read_run, bind_shift_run, newPack_storage]
  have inserted : ∃ pack content signed' directory', Inserted env call d
      { packs := d.packs ++ [newPack env d call signed
          (((writeChecksums env directory).read "run-manifest.json").map env.sha256 |>.getD "")]
        storage := Function.update d.storage (directoryName d call) (writeChecksums env directory) }
      pack content signed' directory' := ⟨_, content, signed, directory, gathered, root, signature, rfl, rfl, rfl⟩
  apply outcome_ofExcept
  · exact fun _ => .inr inserted
  · exact fun _ _ => .inr inserted

/-- The hash of the pack of the run that was made last before the time. -/
def predecessor (packs : List EvidencePack) (runId : String) (createdAt : Nat) : Option String :=
  (((packs.filter fun pack => pack.runId == runId).filter fun other => other.createdAt < createdAt).argmax
    EvidencePack.createdAt).bind EvidencePack.packHash

theorem argmax_map {α : Type} {rank : α → Nat} {change : α → α} (same : ∀ a, rank (change a) = rank a)
    (items : List α) :
    (items.map change).argmax rank = (items.argmax rank).map change := by
  induction items using List.reverseRecOn with
  | nil => rfl
  | append_singleton items last ih =>
    rw [List.map_append, List.map_singleton, List.argmax_concat, List.argmax_concat, ih]
    cases items.argmax rank with
    | none => rfl
    | some best =>
      simp only [Option.map_some, same]
      split <;> rfl

variable {createdAt : Nat} {packs : List EvidencePack} {runId : String}

theorem predecessor_map {change : EvidencePack → EvidencePack} (run : ∀ pack, (change pack).runId = pack.runId)
    (time : ∀ pack, (change pack).createdAt = pack.createdAt) (hash : ∀ pack, (change pack).packHash = pack.packHash) :
    predecessor (packs.map change) runId createdAt = predecessor packs runId createdAt := by
  unfold predecessor
  have runs : (fun pack : EvidencePack => pack.runId == runId) ∘ change = fun pack => pack.runId == runId := by
    funext pack
    simp [run]
  have times : (fun other : EvidencePack => decide (other.createdAt < createdAt)) ∘ change =
      fun other => decide (other.createdAt < createdAt) := by
    funext pack
    simp [time]
  rw [List.filter_map, runs, List.filter_map, times, argmax_map time]
  cases List.argmax EvidencePack.createdAt _ with
  | none => rfl
  | some best => exact hash best

theorem predecessor_append {added : List EvidencePack}
    (late : ∀ pack ∈ added, pack.runId = runId → createdAt ≤ pack.createdAt) :
    predecessor (packs ++ added) runId createdAt = predecessor packs runId createdAt := by
  unfold predecessor
  rw [List.filter_append, List.filter_append]
  have none_ :
      (added.filter fun pack => pack.runId == runId).filter (fun other => other.createdAt < createdAt) = [] := by
    rw [List.filter_eq_nil_iff]
    intro other member
    rw [List.mem_filter, beq_iff_eq] at member
    have bound := late other member.1 member.2
    simp only [decide_eq_true_eq]
    omega
  rw [none_, List.append_nil]

theorem predecessor_all (earlier : ∀ other ∈ packs, other.runId = runId → other.createdAt < createdAt) :
    predecessor packs runId createdAt =
      ((packs.filter fun pack => pack.runId == runId).argmax EvidencePack.createdAt).bind EvidencePack.packHash := by
  unfold predecessor
  rw [List.filter_eq_self.mpr]
  intro other member
  rw [List.mem_filter, beq_iff_eq] at member
  simpa using earlier other member.1 member.2

end

/-- A call that made a pack, with what lay in its directory before. -/
structure Entry (Bytes : Type) where
  call : BuildCall Bytes
  leftover : Directory Bytes
  pack : EvidencePack

/-- The identifiers of the call are new, and the time is later than that of the packs of the run. -/
structure Fresh {Bytes : Type} (d : EvidenceDb Bytes) (call : BuildCall Bytes) : Prop where
  later : ∀ other ∈ d.packs, other.runId = call.runId → other.createdAt < call.now
  id : ∀ other ∈ d.packs, other.id ≠ call.packId
  directory : ∀ other ∈ d.packs, other.path ≠ directoryName d call

/-- The packs and directories after calls of `build` and `verify`, and the calls that made a pack. -/
inductive Course {Bytes : Type} (env : EvidenceEnv Bytes) : List (Entry Bytes) → EvidenceDb Bytes → Prop
  | start : Course env [] { packs := [], storage := fun _ => [] }
  | abandoned {log : List (Entry Bytes)} {d : EvidenceDb Bytes} {call : BuildCall Bytes} (course : Course env log d)
      (fresh : Fresh d call) (packs : (build env call d).2.packs = d.packs) : Course env log (build env call d).2
  | built {log : List (Entry Bytes)} {d : EvidenceDb Bytes} {call : BuildCall Bytes} {pack : EvidencePack}
      (course : Course env log d) (fresh : Fresh d call) (packs : (build env call d).2.packs = d.packs ++ [pack]) :
      Course env (log ++ [⟨call, d.storage (directoryName d call), pack⟩]) (build env call d).2
  | verified {log : List (Entry Bytes)} {d after : EvidenceDb Bytes} {authorized : Except Error Unit}
      {hmacKey : Except Error (Option String)} {files : String → Option Bytes} {runId evidenceId : String}
      {result : VerificationResultV1} (course : Course env log d)
      (ran : verify env authorized hmacKey d files runId evidenceId = .ok (result, after)) : Course env log after

/-- The pack of the entry as `build` made it, and where it is now. -/
structure Filed {Bytes : Type} (env : EvidenceEnv Bytes) (d : EvidenceDb Bytes) (entry : Entry Bytes) : Prop where
  tidy : entry.leftover.Tidy fileNames
  made : ∃ before content signed directory, entry.call.gathered = .ok content ∧
    writeSignature env entry.call.rules entry.call.signing (writeContent env entry.call.rules content entry.leftover) =
      .ok (signed, directory) ∧
    entry.pack = newPack env before entry.call signed
      (((writeChecksums env directory).read "run-manifest.json").map env.sha256 |>.getD "") ∧
    env.inRoot entry.pack.path = true ∧ d.storage entry.pack.path = writeChecksums env directory
  kept : ∃ status, d.packs.find? (fun other => other.id == entry.pack.id && other.runId == entry.pack.runId) =
    some { entry.pack with verificationStatus := status }
  follows : entry.pack.previousPackHash = predecessor d.packs entry.pack.runId entry.pack.createdAt

section
variable {Bytes : Type} {env : EvidenceEnv Bytes} {log : List (Entry Bytes)} {d after : EvidenceDb Bytes}
  {call : BuildCall Bytes} {entry : Entry Bytes}

theorem Filed.listed (filed : Filed env d entry) : ∃ other ∈ d.packs, other.path = entry.pack.path ∧
    other.runId = entry.pack.runId ∧ other.createdAt = entry.pack.createdAt := by
  obtain ⟨status, found⟩ := filed.kept
  exact ⟨_, List.mem_of_find?_eq_some found, rfl, rfl, rfl⟩

variable {authorized : Except Error Unit} {evidenceId runId : String} {files : String → Option Bytes}
  {hmacKey : Except Error (Option String)} {outcome : Except Error EvidencePack × EvidenceDb Bytes}
  {pack : EvidencePack} {result : VerificationResultV1}

theorem Outcome.storage (result : Outcome env call d outcome) {name : String} (other : name ≠ directoryName d call) :
    outcome.2.storage name = d.storage name := by
  rcases result with abandoned | ⟨_, _, _, _, inserted⟩
  · exact abandoned.elsewhere name other
  · rw [inserted.storage, Function.update_of_ne other]

theorem Outcome.tidy (result : Outcome env call d outcome) (tidy : ∀ name, (d.storage name).Tidy fileNames)
    (name : String) : (outcome.2.storage name).Tidy fileNames := by
  by_cases here : name = directoryName d call
  · subst here
    rcases result with abandoned | ⟨_, content, _, _, inserted⟩
    · exact abandoned.tidy (tidy _)
    · rw [inserted.storage, Function.update_self]
      exact (writeSignature_tidy (writeContent_tidy (tidy _)) inserted.signature).write (by decide)
  · rw [result.storage here]
    exact tidy name

theorem Filed.extend {added : List EvidencePack} (filed : Filed env d entry)
    (storage : after.storage entry.pack.path = d.storage entry.pack.path) (packs : after.packs = d.packs ++ added)
    (late : ∀ pack ∈ added, pack.runId = entry.pack.runId → entry.pack.createdAt ≤ pack.createdAt) :
    Filed env after entry := by
  obtain ⟨tidy, ⟨before, content, signed, directory, gathered, signature, row, root, built⟩, ⟨status, kept⟩, follows⟩ :=
    filed
  refine ⟨tidy, ⟨before, content, signed, directory, gathered, signature, row, root, ?_⟩, ⟨status, ?_⟩, ?_⟩
  · rw [storage, built]
  · rw [packs, List.find?_append, kept, Option.some_or]
  · rw [packs, predecessor_append late, follows]

/-- What a `verify` that returns writes down. -/
theorem verify_writes (ran : verify env authorized hmacKey d files runId evidenceId = .ok (result, after)) :
    ∃ status : String, after = { d with packs := d.packs.map fun other =>
      if other.id = evidenceId ∧ other.runId = runId then { other with verificationStatus := status } else other } := by
  unfold verify at ran
  obtain ⟨_, -, ran⟩ := Checked.bind_ok ran
  split at ran
  · cases ran
  · obtain ⟨manifest, -, ran⟩ := Checked.bind_ok ran
    obtain ⟨checksums, -, ran⟩ := Checked.bind_ok ran
    obtain ⟨signature, -, ran⟩ := Checked.bind_ok ran
    obtain ⟨-, rfl⟩ := Prod.mk.inj (Except.ok.inj ran)
    exact ⟨_, rfl⟩

theorem Filed.verified (filed : Filed env d entry)
    (ran : verify env authorized hmacKey d files runId evidenceId = .ok (result, after)) : Filed env after entry := by
  obtain ⟨written, rfl⟩ := verify_writes ran
  obtain ⟨tidy, made, ⟨status, kept⟩, follows⟩ := filed
  have identity : (fun other : EvidencePack => other.id == entry.pack.id && other.runId == entry.pack.runId) ∘
      (fun other => if other.id = evidenceId ∧ other.runId = runId then { other with verificationStatus := written }
        else other) = fun other => other.id == entry.pack.id && other.runId == entry.pack.runId := by
    funext other
    simp only [Function.comp_apply]
    split <;> rfl
  refine ⟨tidy, made, ?_, ?_⟩
  · rw [List.find?_map, identity, kept, Option.map_some]
    split
    · exact ⟨written, rfl⟩
    · exact ⟨status, rfl⟩
  · rw [follows, predecessor_map] <;> intro pack <;> split <;> rfl

theorem new_pack (packs : (build env call d).2.packs = d.packs ++ [pack]) :
    pack.runId = call.runId ∧ pack.createdAt = call.now ∧
      ∃ content signed directory, Inserted env call d (build env call d).2 pack content signed directory := by
  have outcome : Outcome env call d (build env call d) := build_outcome
  rcases outcome with abandoned | ⟨_, content, signed, directory, inserted⟩
  · have none_ := abandoned.packs.symm.trans packs
    simp at none_
  · have same := inserted.packs.symm.trans packs
    rw [List.append_cancel_left_eq, List.singleton_inj] at same
    subst same
    have row := inserted.row
    refine ⟨?_, ?_, content, signed, directory, inserted⟩
    · rw [row]
      rfl
    · rw [row]
      rfl

theorem filed_new (tidy : ∀ name, (d.storage name).Tidy fileNames) (fresh : Fresh d call)
    (packs : (build env call d).2.packs = d.packs ++ [pack]) :
    Filed env (build env call d).2 ⟨call, d.storage (directoryName d call), pack⟩ := by
  obtain ⟨run, time, content, signed, directory, inserted⟩ := new_pack packs
  have row := inserted.row
  have newId : pack.id = call.packId := by
    rw [row]
    rfl
  refine ⟨tidy _, ⟨d, content, signed, directory, inserted.gathered, inserted.signature, row, ?_, ?_⟩,
    ⟨"UNVERIFIED", ?_⟩, ?_⟩
  · rw [row]
    exact inserted.root
  · rw [inserted.storage, row]
    exact Function.update_self _ _ _
  · have unknown : d.packs.find? (fun other => other.id == pack.id && other.runId == pack.runId) = none := by
      rw [List.find?_eq_none]
      intro other member
      simp [newId, fresh.id other member]
    have unverified : pack = { pack with verificationStatus := "UNVERIFIED" } := by
      rw [row]
      rfl
    rw [packs, List.find?_append, unknown, Option.none_or, ← unverified, List.find?_singleton]
    simp
  · rw [packs, run, time, predecessor_append fun other member _ => ?_, predecessor_all fresh.later, row]
    · rfl
    · rw [List.mem_singleton.mp member, time]

/-- After any course, the directories hold only files of `build`, and each pack is filed. -/
theorem Course.filed (course : Course env log d) :
    (∀ name, (d.storage name).Tidy fileNames) ∧ ∀ entry ∈ log, Filed env d entry := by
  induction course with
  | start =>
    refine ⟨fun name => ⟨?_, ?_⟩, ?_⟩
    · simp
    · simp
    · simp
  | abandoned course fresh packs ih =>
    refine ⟨build_outcome.tidy ih.1, fun entry member => ?_⟩
    have filed := ih.2 entry member
    obtain ⟨other, listed, path, -, -⟩ := filed.listed
    exact filed.extend (build_outcome.storage (path ▸ fresh.directory other listed))
      (packs.trans (List.append_nil _).symm) (by simp)
  | built course fresh packs ih =>
    refine ⟨build_outcome.tidy ih.1, fun entry member => ?_⟩
    rcases List.mem_append.mp member with old | new
    · have filed := ih.2 entry old
      obtain ⟨other, listed, path, otherRun, otherTime⟩ := filed.listed
      refine filed.extend (build_outcome.storage (path ▸ fresh.directory other listed)) packs fun pack added run => ?_
      obtain ⟨newRun, newTime, -⟩ := new_pack packs
      rw [List.mem_singleton.mp added] at run ⊢
      have bound := fresh.later other listed (otherRun.trans (run.symm.trans newRun))
      omega
    · rw [List.mem_singleton.mp new]
      exact filed_new ih.1 fresh packs
  | verified course ran ih =>
    obtain ⟨written, same⟩ := verify_writes ran
    refine ⟨fun name => ?_, fun entry member => (ih.2 entry member).verified ran⟩
    rw [same]
    exact ih.1 name

end

end EvidenceService
end SacmRuntime
