import SacmRuntime.Governance.AttestationChain
import SacmRuntime.Runtime.Operations

namespace SacmRuntime
open Session EvidenceService SupplyChainService

/-- A call of `attest`, with the signing settings it finds. -/
structure AttestCall where
  signing : Signing
  runId : String
  payload : AttestationCreate

namespace AttestCall
variable {Bytes : Type}

def after (env : EvidenceEnv Bytes) (call : AttestCall) (d : SupplyChainDb) (supply : Supply) : SupplyChainDb :=
  (request (attest env call.signing call.runId call.payload) d supply).2

/-- The call signs with an Ed25519 key, and its run has no attestation of a later instant. -/
def inOrder (env : EvidenceEnv Bytes) (d : SupplyChainDb) (supply : Supply) (call : AttestCall) : Prop :=
  (∃ key, call.signing.privateKey = some (.ok key) ∧ IdealKey env key) ∧
    ∀ row ∈ attestationsOf d call.runId, row.createdAt ≤ supply.clock 0

end AttestCall

/-- What someone puts in place of the contents of an attestation, leaving its key. -/
structure AttestationEdit where
  statement : Json
  statementHash : String
  subjectName : String
  subjectDigest : String
  previousAttestationHash : Option String
  attestationHash : String
  signature : String

namespace AttestationEdit

def apply (edit : AttestationEdit) (row : SupplyChainAttestation) : SupplyChainAttestation :=
  { row with
    statement := edit.statement, statementHash := edit.statementHash, subjectName := edit.subjectName
    subjectDigest := edit.subjectDigest, previousAttestationHash := edit.previousAttestationHash
    attestationHash := edit.attestationHash, signature := edit.signature }

/-- The edit alters one of the contents; a statement stays an object. -/
structure Alters (edit : AttestationEdit) (row : SupplyChainAttestation) : Prop where
  statement : edit.statement = row.statement ∨
    (∃ members, edit.statement = .obj members) ∧ edit.statement.text false ≠ row.statement.text false
  something : edit.statement ≠ row.statement ∨ edit.subjectName ≠ row.subjectName ∨
    edit.subjectDigest ≠ row.subjectDigest ∨ edit.previousAttestationHash ≠ row.previousAttestationHash ∨
    edit.attestationHash ≠ row.attestationHash ∨ edit.signature ≠ row.signature

/-- No signature was made for the edited statement: the old one stands, or one the key does not accept. -/
def NotResigned {Bytes : Type} (env : EvidenceEnv Bytes) (edit : AttestationEdit) (row : SupplyChainAttestation) :
    Prop :=
  edit.signature = row.signature ∨ ¬SignatureAccepted env (edit.apply row)

end AttestationEdit

def SupplyChainDb.without (row : SupplyChainAttestation) (d : SupplyChainDb) : SupplyChainDb :=
  { d with attestations := d.attestations.deleteWhere fun other => other.id == row.id }

def SupplyChainDb.edited (row : SupplyChainAttestation) (edit : AttestationEdit) (d : SupplyChainDb) : SupplyChainDb :=
  { d with attestations := d.attestations.update row.id edit.apply }

/-- The attestations of a run are accepted as they stand, and found broken once
one that has a successor is deleted or one is altered. -/
structure AttestationsTrusted {Bytes : Type} (env : EvidenceEnv Bytes) (hmacKey : Except Error (Option String))
    (d : SupplyChainDb) (runId : String) : Prop where
  chain : ∃ result, verifyChain env hmacKey d runId = .ok result ∧ result.status = .valid ∧ result.errors = []
  single : ∀ row ∈ attestationsOf d runId, ∃ result, verifyAttestation env hmacKey d row = .ok result ∧
    result.status = .valid ∧ result.errors = []
  deletion : ∀ row later, [row, later].Sublist (attestationsOf d runId) →
    ∃ result, verifyChain env hmacKey (d.without row) runId = .ok result ∧ result.status = .invalid
  alteration : ∀ row ∈ attestationsOf d runId, ∀ edit : AttestationEdit, edit.Alters row → edit.NotResigned env row →
    ∃ result, verifyChain env hmacKey (d.edited row edit) runId = .ok result ∧ result.status = .invalid

section Calls
variable {Bytes : Type} {env : EvidenceEnv Bytes} {d e : SupplyChainDb} {runId : String}

/-- A row was added to the attestations of a run, after the newest one. -/
structure Appended (env : EvidenceEnv Bytes) (call : AttestCall) (createdAt : Nat) (d e : SupplyChainDb) : Prop where
  row : ∃ digest signed id attestations,
    SupplyChainService.signStatement env call.signing (statementOf call.payload digest) call.payload.keyId =
      .ok signed ∧
      d.attestations.insert? (newAttestation env call.runId call.payload digest
        ((attestationsOf d call.runId).argmax SupplyChainAttestation.createdAt) signed id createdAt) =
          some attestations ∧
      e = { d with attestations := attestations }

theorem attest_outcome (call : AttestCall) (d : SupplyChainDb) (supply : Supply) :
    call.after env d supply = d ∨ Appended env call (supply.clock 0) d (call.after env d supply) := by
  have outcome : ∀ P : Except Error SupplyChainAttestation × Session SupplyChainDb → Prop,
      (∀ result s, s.committed = d → P (result, s)) →
      (∀ result s, Appended env call (supply.clock 0) d s.committed → P (result, s)) →
        P (attest env call.signing call.runId call.payload (start d supply)) := by
    intro P unchanged appended
    unfold attest
    rw [bind_view]
    refine Tx.outcome_expect (unchanged _ _ rfl) fun run _ => ?_
    rw [bind_view]
    refine Tx.outcome_ofExcept (fun _ => unchanged _ _ rfl) fun _ _ => ?_
    refine Tx.outcome_ofExcept (fun _ => unchanged _ _ rfl) fun digest _ => ?_
    rw [bind_view]
    refine Tx.outcome_ofExcept (fun _ => unchanged _ _ rfl) fun signed made => ?_
    rw [bind_uuid4, bind_utcnow, bind_view]
    refine Tx.outcome_expect (unchanged _ _ rfl) fun attestations inserted => ?_
    rw [bind_modify, bind_commit, bind_view]
    have added : Appended env call (supply.clock 0) d { d with attestations := attestations } :=
      ⟨digest, signed, supply.uuids 0, attestations, made, inserted, rfl⟩
    exact Tx.outcome_ofExcept (fun _ => appended _ _ added) fun _ _ => appended _ _ added
  exact outcome (fun out => out.2.committed = d ∨ Appended env call (supply.clock 0) d out.2.committed)
    (fun _ _ same => .inl same) fun _ _ added => .inr added

variable {attestations : Table SupplyChainAttestation} {call : AttestCall} {digest : String}
  {signed : SignedStatement} {supply : Supply}

theorem AttestCall.adds {run : Run} (found : d.runs.find call.runId = some run)
    (linked : validateAttestationLinks d run call.payload = .ok ())
    (normal : normalizeSha256 call.payload.subject.digest = .ok digest)
    (made : SupplyChainService.signStatement env call.signing (statementOf call.payload digest) call.payload.keyId =
      .ok signed)
    (inserted : d.attestations.insert?
      (newAttestation env call.runId call.payload digest
      ((attestationsOf d call.runId).argmax SupplyChainAttestation.createdAt) signed (supply.uuids 0)
    (supply.clock 0)) = some attestations) :
    call.after env d supply = { d with attestations := attestations } := by
  unfold AttestCall.after request attest
  simp only [bind_view, start_working, found, Tx.bind_expect_some, linked, Tx.ofExcept, Tx.bind_pure_run, normal, made,
    bind_uuid4, bind_utcnow]
  rw [show (start d supply).uuids 0 = supply.uuids 0 from rfl, show (start d supply).clock 0 = supply.clock 0 from rfl,
    inserted, Tx.bind_expect_some, bind_modify, bind_commit]
  -- The row stays whatever its verification says.
  cases verified : verifyAttestation env call.signing.hmacKey { d with attestations := attestations }
      (newAttestation env call.runId call.payload digest
        ((attestationsOf d call.runId).argmax SupplyChainAttestation.createdAt) signed (supply.uuids 0)
        (supply.clock 0)) with
  | ok _ =>
    simp only [bind_view, verified]
    rfl
  | error _ =>
    simp only [bind_view, verified]
    rfl

/-- What a call signs with a key is a row as `attest` makes it. -/
theorem newAttestation_attested {key : PrivateKey} {previous : Option SupplyChainAttestation} {id : String}
    {createdAt : Nat} (chosen : call.signing.privateKey = some (.ok key)) (ideal : IdealKey env key)
    (made : SupplyChainService.signStatement env call.signing (statementOf call.payload digest) call.payload.keyId =
      .ok signed) :
    Attested env (newAttestation env call.runId call.payload digest previous signed id createdAt) := by
  unfold SupplyChainService.signStatement EvidenceService.signStatement at made
  rw [chosen] at made
  cases made
  refine ⟨⟨key, ⟨ideal, rfl, rfl, rfl, _, rfl⟩, rfl⟩, rfl, rfl, rfl⟩

theorem attestationsOf_append {row : SupplyChainAttestation} (rows : attestations.rows = d.attestations.rows ++ [row]) :
    attestationsOf { d with attestations := attestations } runId =
      attestationsOf d runId ++ if row.runId = runId then [row] else [] := by
  unfold attestationsOf
  rw [rows, List.filter_append]
  by_cases of_ : row.runId = runId
  · rw [if_pos of_, List.filter_cons_of_pos (by simpa using of_), List.filter_nil]
  · rw [if_neg of_, List.filter_cons_of_neg (by simpa using of_), List.filter_nil]

theorem AttestCall.inOrder.keeps (inOrder : call.inOrder env d supply) (log : AttestationLog env d runId) :
    AttestationLog env (call.after env d supply) runId := by
  obtain ⟨⟨key, chosen, ideal⟩, latest⟩ := inOrder
  rcases attest_outcome call d supply with same | appended
  · rw [same]
    exact log
  · obtain ⟨digest, signed, id, attestations, made, inserted, stored⟩ := appended.row
    have rows := (Table.insert?_eq_some inserted).2
    by_cases here : call.runId = runId
    · subst here
      have grownBy : attestationsOf (call.after env d supply) call.runId = attestationsOf d call.runId ++
          [newAttestation env call.runId call.payload digest
            ((attestationsOf d call.runId).argmax SupplyChainAttestation.createdAt) signed id (supply.clock 0)] := by
        rw [stored, attestationsOf_append rows]
        exact congrArg _ (if_pos rfl)
      constructor
      · rw [grownBy]
        exact log.grown.next rfl
      · rw [grownBy]
        refine List.pairwise_append.mpr ⟨log.ordered, List.pairwise_singleton _ _, fun row member new isNew => ?_⟩
        cases List.mem_singleton.mp isNew
        exact latest row member
      · intro row member
        rw [grownBy] at member
        rcases List.mem_append.mp member with old | new
        · exact log.attested row old
        · cases List.mem_singleton.mp new
          exact newAttestation_attested chosen ideal made
    · have same : attestationsOf (call.after env d supply) runId = attestationsOf d runId := by
        rw [stored, attestationsOf_append rows]
        exact (congrArg _ (if_neg here)).trans (List.append_nil _)
      exact ⟨same ▸ log.grown, same ▸ log.ordered, same ▸ log.attested⟩

abbrev AttestationRun (env : EvidenceEnv Bytes) : SupplyChainDb → SupplyChainDb → Prop :=
  Path (AttestCall.after env) (AttestCall.inOrder env)

theorem AttestationRun.log (run : AttestationRun env d e) (empty : d.attestations = .empty) (runId : String) :
    AttestationLog env e runId := by
  refine run.keeps (fun _ _ _ condition log => condition.keeps log) ?_
  have none_ : attestationsOf d runId = [] := by
    unfold attestationsOf
    rw [empty]
    rfl
  constructor
  · rw [none_]
    exact .start
  · rw [none_]
    exact .nil
  · rw [none_]
    exact fun row member => absurd member List.not_mem_nil

end Calls

section Trust
variable {Bytes : Type} {env : EvidenceEnv Bytes} {hmacKey : Except Error (Option String)} {d : SupplyChainDb}
  {runId : String} {row other : SupplyChainAttestation} {edit : AttestationEdit}

theorem mem_attestationsOf : row ∈ attestationsOf d runId ↔ row ∈ d.attestations.rows ∧ row.runId = runId := by
  unfold attestationsOf
  rw [List.mem_filter, decide_eq_true_eq]

theorem id_inj (member : row ∈ attestationsOf d runId) (among : other ∈ attestationsOf d runId)
    (same : row.id = other.id) :
    row = other :=
  List.inj_on_of_nodup_map d.attestations.distinct (mem_attestationsOf.mp member).1 (mem_attestationsOf.mp among).1 same

theorem AttestationLog.clean_iff (digest : Digest fun text => env.sha256 (env.encode text))
    (log : AttestationLog env d runId) :
    (∀ row ∈ attestationsOf d runId, Clean env d row) ↔ attestationLink.Ascending (attestationsOf d runId) := by
  have named := log.grown.older_iff log.ordered (log.separated digest)
  have predecessor : ∀ row ∈ attestationsOf d runId,
      predecessorOf d row = attestationLink.older (attestationsOf d runId) row := by
    intro row member
    rw [← (mem_attestationsOf.mp member).2]
    rfl
  rw [← named]
  constructor
  · intro clean row member
    rw [← predecessor row member]
    exact (clean row member).follows
  · intro follows row member
    refine (log.attested row member).clean ?_
    rw [predecessor row member]
    exact follows row member

theorem AttestationLog.signed (log : AttestationLog env d runId) :
    ∀ row ∈ attestationsOf d runId, ∃ key, SignedWith env key row := by
  intro row member
  obtain ⟨key, signed, -⟩ := (log.attested row member).signed
  exact ⟨key, signed⟩

theorem attestationsOf_without :
    attestationsOf (d.without row) runId = (attestationsOf d runId).filter fun other => !(other.id == row.id) := by
  unfold attestationsOf
  exact List.filter_comm ..

/-- The row with the key of the edited one takes the edited contents. -/
def AttestationEdit.at (edit : AttestationEdit) (row other : SupplyChainAttestation) : SupplyChainAttestation :=
  if other.id = row.id then edit.apply other else other

theorem AttestationEdit.at_kept : (edit.at row other).createdAt = other.createdAt ∧
    (edit.at row other).runId = other.runId := by
  unfold AttestationEdit.at
  split <;> exact ⟨rfl, rfl⟩

theorem attestationsOf_edited :
    attestationsOf (d.edited row edit) runId = (attestationsOf d runId).map (edit.at row) := by
  have rows : (d.edited row edit).attestations.rows = d.attestations.rows.map (edit.at row) := by
    refine List.map_congr_left fun other _ => ?_
    unfold AttestationEdit.at
    by_cases here : other.id = row.id
    · have keyed : (Keyed.key other == row.id) = true := beq_iff_eq.mpr here
      rw [if_pos keyed, if_pos here, Table.rewriteRow_of_keeps rfl]
    · have keyed : ¬(Keyed.key other == row.id) = true := fun same => here (beq_iff_eq.mp same)
      rw [if_neg keyed, if_neg here]
  unfold attestationsOf
  rw [rows, List.filter_map]
  congr 1
  exact List.filter_congr fun other _ => by simp [AttestationEdit.at_kept]

theorem verifyChain_invalid (signed : ∀ row ∈ attestationsOf d runId, ∃ key, SignedWith env key row)
    (nonempty : attestationsOf d runId ≠ [])
    (broken : ¬(attestationCheck.Along none (attestationOrder (attestationsOf d runId)) ∧
      ∀ row ∈ attestationsOf d runId, Clean env d row)) :
    ∃ result, verifyChain env hmacKey d runId = .ok result ∧ result.status = .invalid := by
  obtain ⟨result, ran, clean, -, invalid⟩ : ∃ result, verifyChain env hmacKey d runId = .ok result ∧
      (result.errors = [] ↔ attestationCheck.Along none (attestationOrder (attestationsOf d runId)) ∧
        ∀ row ∈ attestationsOf d runId, Clean env d row) ∧
      (result.status = .valid ↔ attestationsOf d runId ≠ [] ∧ result.errors = []) ∧
      (result.status = .invalid ↔ attestationsOf d runId ≠ [] ∧ result.errors ≠ []) := verifyChain_returns signed
  exact ⟨result, ran, invalid.mpr ⟨nonempty, fun none_ => broken (clean.mp none_)⟩⟩

theorem deletion_found (digest : Digest fun text => env.sha256 (env.encode text)) (log : AttestationLog env d runId)
    (ascending : attestationLink.Ascending (attestationsOf d runId)) {later : SupplyChainAttestation}
    (successor : [row, later].Sublist (attestationsOf d runId)) :
    ∃ result, verifyChain env hmacKey (d.without row) runId = .ok result ∧ result.status = .invalid := by
  have inRow : row ∈ attestationsOf d runId := successor.subset List.mem_cons_self
  have inLater : later ∈ attestationsOf d runId := successor.subset (by simp)
  have after_ : row.createdAt < later.createdAt := List.rel_of_pairwise_cons (ascending.sublist successor) (by simp)
  have apart : later.id ≠ row.id := by
    intro same
    rw [id_inj inLater inRow same] at after_
    omega
  have rest : later ∈ attestationsOf (d.without row) runId := by
    rw [attestationsOf_without]
    exact List.mem_filter.mpr ⟨inLater, by simpa using apart⟩
  have signed : ∀ other ∈ attestationsOf (d.without row) runId, ∃ key, SignedWith env key other := by
    intro other member
    rw [attestationsOf_without] at member
    exact log.signed other (List.mem_of_mem_filter member)
  refine verifyChain_invalid signed (List.ne_nil_of_mem rest) ?_
  rintro ⟨along, -⟩
  have still : attestationLink.Ascending (attestationsOf (d.without row) runId) := by
    rw [attestationsOf_without]
    exact ascending.sublist List.filter_sublist
  rw [attestationOrder_eq still, attestationsOf_without,
    ScopedCheck.along_none_filter_iff (fun a b _ fitsA fitsB => (beq_iff_eq.mp fitsA).symm.trans (beq_iff_eq.mp fitsB))
      ((log.grown.linear (log.separated digest) ascending.dropLast).hashes_nodup (log.separated digest))
      (along_of_ascending log.grown ascending),
    pairwise_iff_of_ascending ascending] at along
  have kept := along row inRow later inLater after_ (by simpa using apart)
  simp at kept

theorem statement_kept {key : PrivateKey} (signed : SignedWith env key row)
    (made : row.signature = key.sign (row.statement.text false)) (alters : edit.Alters row)
    (stands : edit.signature = row.signature) (accepted : SignatureAccepted env (edit.apply row)) :
    edit.statement = row.statement := by
  obtain ⟨publicPem, publicKey, accepts⟩ := accepted
  obtain rfl : key.publicPem = publicPem := Option.some.inj (signed.publicKey.symm.trans publicKey)
  have checked : env.checkEd25519 key.publicPem (key.sign (row.statement.text false)) (edit.statement.text false) =
      .ok () := by
    rw [← made, ← stands]
    exact accepts
  have text := signed.ideal.binds _ _ checked
  exact alters.statement.resolve_right fun other => other.2 text

theorem alteration_found (log : AttestationLog env d runId)
    (ascending : attestationLink.Ascending (attestationsOf d runId)) (member : row ∈ attestationsOf d runId)
    (alters : edit.Alters row) (notResigned : edit.NotResigned env row) :
    ∃ result, verifyChain env hmacKey (d.edited row edit) runId = .ok result ∧ result.status = .invalid := by
  have attested := log.attested row member
  obtain ⟨key, signedRow, made⟩ := attested.signed
  have here : edit.at row row = edit.apply row := if_pos rfl
  have others : ∀ other ∈ attestationsOf d runId, other ≠ row → edit.at row other = other :=
    fun other among different => if_neg fun same => different (id_inj among member same)
  have inEdited : edit.apply row ∈ attestationsOf (d.edited row edit) runId := by
    rw [attestationsOf_edited, ← here]
    exact List.mem_map_of_mem member
  have signed : ∀ other ∈ attestationsOf (d.edited row edit) runId, ∃ key, SignedWith env key other := by
    intro other among
    rw [attestationsOf_edited] at among
    obtain ⟨old, inOld, rfl⟩ := List.mem_map.mp among
    by_cases same : old = row
    · subst same
      rw [here]
      refine ⟨key, signedRow.ideal, signedRow.algorithm, signedRow.publicKey, signedRow.fingerprint, ?_⟩
      rcases alters.statement with kept | ⟨object, -⟩
      · obtain ⟨members, statement⟩ := signedRow.statement
        exact ⟨members, kept.trans statement⟩
      · exact object
    · rw [others old inOld same]
      exact log.signed old inOld
  refine verifyChain_invalid signed (List.ne_nil_of_mem inEdited) ?_
  rintro ⟨along, cleanAll⟩
  have cleanRow := cleanAll _ inEdited
  have still : attestationLink.Ascending (attestationsOf (d.edited row edit) runId) := by
    rw [attestationsOf_edited]
    refine List.pairwise_map.mpr (ascending.imp fun {a b} below => ?_)
    change (edit.at row a).createdAt < (edit.at row b).createdAt
    rw [AttestationEdit.at_kept.1, AttestationEdit.at_kept.1]
    exact below
  rw [attestationOrder_eq still, attestationsOf_edited] at along
  obtain ⟨mark, fits, fitsEdited⟩ := (along_of_ascending log.grown ascending).fits_both others member along
  rw [here] at fitsEdited
  have previous : edit.previousAttestationHash = row.previousAttestationHash :=
    (beq_iff_eq.mp fitsEdited).trans (beq_iff_eq.mp fits).symm
  have stands : edit.signature = row.signature := notResigned.resolve_right (not_not_intro cleanRow.signature)
  have statement := statement_kept signedRow made alters stands cleanRow.signature
  have statementHash : edit.statementHash = row.statementHash := by
    have hashed := cleanRow.hashed
    change EvidenceService.canonicalSha256 env edit.statement = edit.statementHash at hashed
    rw [← hashed, statement, attested.hashed]
  have subject : edit.subjectName = row.subjectName ∧ edit.subjectDigest = row.subjectDigest := by
    have listed := cleanRow.subject
    change subjectListed (edit.apply row) (edit.statement.get "subject") = true at listed
    rw [statement, attested.subject, subjectListed_iff] at listed
    exact ⟨listed.1.symm, listed.2.symm⟩
  have attestationHash : edit.attestationHash = row.attestationHash := by
    have linked := cleanRow.linked
    change EvidenceService.canonicalSha256 env
      (linkDocument edit.statementHash edit.previousAttestationHash edit.signature) =
      edit.attestationHash at linked
    rw [← linked, statementHash, previous, stands, attested.linked]
  rcases alters.something with other | other | other | other | other | other
  · exact other statement
  · exact other subject.1
  · exact other subject.2
  · exact other previous
  · exact other attestationHash
  · exact other stands

end Trust

/-- The attestations of a run are trusted exactly when there are some and no
two of them were stored at one instant. -/
theorem attestations_trusted_iff {Bytes : Type} {env : EvidenceEnv Bytes} {d e : SupplyChainDb}
    {hmacKey : Except Error (Option String)} {runId : String}
    (digest : Digest fun text => env.sha256 (env.encode text)) (run : AttestationRun env d e)
    (empty : d.attestations = .empty) :
    AttestationsTrusted env hmacKey e runId ↔
      attestationsOf e runId ≠ [] ∧ (attestationsOf e runId).Pairwise fun a b => a.createdAt < b.createdAt := by
  have log : AttestationLog env e runId := run.log empty runId
  obtain ⟨result, ran, clean, valid, -⟩ : ∃ result, verifyChain env hmacKey e runId = .ok result ∧
      (result.errors = [] ↔ attestationCheck.Along none (attestationOrder (attestationsOf e runId)) ∧
        ∀ row ∈ attestationsOf e runId, Clean env e row) ∧
      (result.status = .valid ↔ attestationsOf e runId ≠ [] ∧ result.errors = []) ∧
      (result.status = .invalid ↔ attestationsOf e runId ≠ [] ∧ result.errors ≠ []) := verifyChain_returns log.signed
  constructor
  · rintro ⟨⟨found, again, status, none_⟩, -, -, -⟩
    obtain rfl : result = found := Except.ok.inj (ran.symm.trans again)
    exact ⟨(valid.mp status).1, (log.clean_iff digest).mp (clean.mp none_).2⟩
  · rintro ⟨nonempty, ascending⟩
    have cleanAll := (log.clean_iff digest).mpr ascending
    have none_ : result.errors = [] := by
      refine clean.mpr ⟨?_, cleanAll⟩
      rw [attestationOrder_eq ascending]
      exact along_of_ascending log.grown ascending
    constructor
    · exact ⟨result, ran, valid.mpr ⟨nonempty, none_⟩, none_⟩
    · intro row member
      obtain ⟨key, signed⟩ := log.signed row member
      obtain ⟨verdict, verified, errors, status⟩ : ∃ verdict, verifyAttestation env hmacKey e row = .ok verdict ∧
          (verdict.errors = [] ↔ Clean env e row) ∧ (verdict.status = .valid ↔ verdict.errors = []) :=
        verifyAttestation_returns signed
      have good := errors.mpr (cleanAll row member)
      exact ⟨verdict, verified, status.mpr good, good⟩
    · exact fun row later successor => deletion_found digest log ascending successor
    · exact fun row member edit alters notResigned => alteration_found log ascending member alters notResigned

namespace AttestationSample
open HexText

def key : PrivateKey := ⟨fun text => "PEM " ++ text, "PEM ", "PEM "⟩

def env : EvidenceEnv (List Char) :=
  { SignedPack.env "" "" with
    fingerprint := fun publicPem => .ok publicPem
    checkEd25519 := fun publicPem signature text =>
      if signature = publicPem ++ text then .ok () else .error (.valueError "Ed25519 signature is invalid.") }

theorem key_ideal : IdealKey env key where
  fingerprint := rfl
  accepts text := if_pos rfl
  rejects signature text e rejected := by
    change (if _ then _ else _) = _ at rejected
    split at rejected
    · cases rejected
    · exact (Except.error.inj rejected).symm
  binds text other accepted := by
    change (if _ then _ else _) = _ at accepted
    split at accepted
    · rename_i same
      have lists : ("PEM " ++ text).toList = ("PEM " ++ other).toList := congrArg String.toList same
      rw [String.toList_append, String.toList_append] at lists
      exact (String.toList_injective (List.append_cancel_left lists)).symm
    · cases accepted

theorem digest : Digest fun text => env.sha256 (env.encode text) where
  injective a b same := String.toList_injective (hexText_injective (String.ofList_injective same))
  digits text c member := hexText_mem (by simpa [env, SignedPack.env] using member)

def call : AttestCall where
  signing := { privateKey := some (.ok key), hmacConfigured := false, hmacKey := .ok none, keyId := none }
  runId := "r"
  payload :=
    { subject := ⟨"image", String.ofList (List.replicate 64 'a')⟩
      predicateType := "https://slsa.dev/provenance/v1"
      predicate := .obj [] }

def supply (id : String) (instant : Nat) : Supply := ⟨fun _ => instant, fun _ => id, fun _ => ""⟩

def store : SupplyChainDb := { runs := .ofRows [newRun "r" Sample.task .planning 0] }

/-- Two attestations of the run, the second one at the given instant. -/
def attestedTwice (instant : Nat) : SupplyChainDb :=
  call.after env (call.after env store (supply "a" 1)) (supply "b" instant)

/-- The keys and the instants of the attestations of the run. -/
def stamps (d : SupplyChainDb) : List (String × Nat) := (attestationsOf d "r").map fun row => (row.id, row.createdAt)

def image : String := call.payload.subject.digest

def signed : SignedStatement where
  statement := statementOf call.payload image
  algorithm := "ed25519"
  keyId := String.ofList ("PEM ".toList.take 16)
  publicKeyFingerprint := some key.fingerprint
  publicKey := some key.publicPem
  signature := key.sign ((statementOf call.payload image).text false)

def row (d : SupplyChainDb) (id : String) (instant : Nat) : SupplyChainAttestation :=
  newAttestation env "r" call.payload image ((attestationsOf d "r").argmax SupplyChainAttestation.createdAt) signed id
    instant

theorem call_adds {d : SupplyChainDb} {run : Run} {id : String} (instant : Nat) (found : d.runs.find "r" = some run)
    (fresh : d.attestations.find id = none) :
    ∃ attestations, d.attestations.insert? (row d id instant) = some attestations ∧
      call.after env d (supply id instant) = { d with attestations := attestations } ∧
      stamps (call.after env d (supply id instant)) = stamps d ++ [(id, instant)] := by
  have digest : normalizeSha256 image = .ok image := by decide +kernel
  have linked : validateAttestationLinks d run call.payload = .ok () := by
    change (normalizeSha256 image >>= fun _ => .ok ()) = .ok ()
    rw [digest]
    rfl
  obtain ⟨attestations, inserted⟩ : ∃ next, d.attestations.insert? (row d id instant) = some next :=
    Table.insert?_isSome_of_fresh fresh
  have stored : call.after env d (supply id instant) = { d with attestations := attestations } :=
    call.adds found linked digest rfl inserted
  refine ⟨attestations, inserted, stored, ?_⟩
  unfold stamps
  rw [stored, attestationsOf_append (Table.insert?_eq_some inserted).2, List.map_append]
  rfl

theorem attested_once : ∃ run attestations, call.after env store
    (supply "a" 1) = { store with attestations := attestations } ∧
    store.runs.find "r" = some run ∧ attestations.find "b" = none ∧
      stamps (call.after env store (supply "a" 1)) = [("a", 1)] := by
  have found : store.runs.find "r" = some (newRun "r" Sample.task .planning 0) := rfl
  obtain ⟨attestations, inserted, stored, stamped⟩ := call_adds 1 found (by rfl : store.attestations.find "a" = none)
  refine ⟨_, attestations, stored, found, ?_, stamped⟩
  rw [Table.find_insert? inserted]
  rfl

theorem stamps_attestedTwice (instant : Nat) : stamps (attestedTwice instant) = [("a", 1), ("b", instant)] := by
  obtain ⟨run, attestations, stored, found, fresh, stamped⟩ := attested_once
  rw [stored] at stamped
  obtain ⟨-, -, -, both⟩ := call_adds (d := { store with attestations := attestations }) instant found fresh
  rw [attestedTwice, stored, both, stamped]
  rfl

theorem attestedTwice_run {instant : Nat} (later : 1 ≤ instant) : AttestationRun env store (attestedTwice instant) := by
  have first : AttestationRun env store (call.after env store (supply "a" 1)) :=
    Path.start.next call (supply "a" 1) ⟨⟨key, rfl, key_ideal⟩, fun row member => absurd member List.not_mem_nil⟩
  refine first.next call (supply "b" instant) ⟨⟨key, rfl, key_ideal⟩, fun row member => ?_⟩
  obtain ⟨-, -, -, -, -, stamped⟩ := attested_once
  have listed : (row.id, row.createdAt) ∈ stamps (call.after env store (supply "a" 1)) :=
    List.mem_map.mpr ⟨row, member, rfl⟩
  rw [stamped, List.mem_singleton, Prod.mk.injEq] at listed
  change row.createdAt ≤ instant
  omega

theorem ascending_iff {instant : Nat} : ((attestationsOf (attestedTwice instant) "r").Pairwise fun a b =>
    a.createdAt < b.createdAt) ↔ 1 < instant := by
  have map : ((stamps (attestedTwice instant)).Pairwise fun a b => a.2 < b.2) ↔
      (attestationsOf (attestedTwice instant) "r").Pairwise fun a b => a.createdAt < b.createdAt := List.pairwise_map
  rw [← map, stamps_attestedTwice]
  simp

theorem attestedTwice_nonempty (instant : Nat) : attestationsOf (attestedTwice instant) "r" ≠ [] := by
  intro none_
  have stamped := stamps_attestedTwice instant
  rw [stamps, none_] at stamped
  cases stamped

end AttestationSample

open AttestationSample in
/-- Two attestations at different instants. -/
theorem attestations_trusted_sample : AttestationsTrusted env (.ok none) (attestedTwice 2) "r" :=
  (attestations_trusted_iff digest (attestedTwice_run (by omega)) rfl).mpr
    ⟨attestedTwice_nonempty 2, ascending_iff.mpr (by omega)⟩

open AttestationSample in
/-- Two attestations at one instant: the second one names the first, which the
verification does not look for. -/
theorem one_instant_refused : (Digest fun text => env.sha256 (env.encode text)) ∧
    AttestationRun env store (attestedTwice 1) ∧ ¬AttestationsTrusted env (.ok none) (attestedTwice 1) "r" := by
  have run : AttestationRun env store (attestedTwice 1) := attestedTwice_run (by omega)
  refine ⟨digest, run, fun trusted => ?_⟩
  have single := trusted.single
  have log : AttestationLog env (attestedTwice 1) "r" := run.log rfl "r"
  have clean : ∀ row ∈ attestationsOf (attestedTwice 1) "r", Clean env (attestedTwice 1) row := by
    intro row member
    obtain ⟨result, ran, -, none_⟩ := single row member
    obtain ⟨key, signed⟩ := log.signed row member
    obtain ⟨verdict, verified, errors, -⟩ : ∃ verdict,
        verifyAttestation env (.ok none) (attestedTwice 1) row = .ok verdict ∧
          (verdict.errors = [] ↔ Clean env (attestedTwice 1) row) ∧ (verdict.status = .valid ↔ verdict.errors = []) :=
      verifyAttestation_returns signed
    obtain rfl : verdict = result := Except.ok.inj (verified.symm.trans ran)
    exact errors.mp none_
  have strict := ascending_iff.mp ((log.clean_iff digest).mp clean)
  omega

end SacmRuntime
