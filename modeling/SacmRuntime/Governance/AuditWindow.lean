import SacmRuntime.Governance.AuditChecks

namespace SacmRuntime
open Session TenantAuditService

def samePlace (a b : TenantAuditEvent) : Bool := a.organizationId == b.organizationId && a.sequence == b.sequence

def GovernanceDb.without (event : TenantAuditEvent) (d : GovernanceDb) : GovernanceDb :=
  { d with auditEvents := d.auditEvents.filter fun row => !samePlace row event }

def TenantAuditEvent.renamed (event : TenantAuditEvent) (hash : Option String) (row : TenantAuditEvent) :
    TenantAuditEvent :=
  if samePlace row event then { row with previousEventHash := hash } else row

/-- The log with another predecessor named in an event. -/
def GovernanceDb.withPrevious (event : TenantAuditEvent) (hash : Option String) (d : GovernanceDb) : GovernanceDb :=
  { d with auditEvents := d.auditEvents.map (event.renamed hash) }

structure ChainReported (d : GovernanceDb) (organizationId : Option String) (start : Nat) : Prop where
  bad : 0 < (SLOService.measureAuditDelivery d organizationId start).bad
  contiguous : (SLOService.measureAuditDelivery d organizationId start).chainContiguous = false
  health : (OperationalHealthService.auditHealth d organizationId).chainValid = false

/-- The checks accept the log as it is, and report an event of the window that
was taken out of the middle of its chain or names another predecessor. -/
structure AuditChecked (d : GovernanceDb) (organizationId : Option String) (start : Nat) : Prop where
  bad : (∀ delivery ∈ d.windowDeliveries organizationId start, delivery.status = .delivered) →
    (SLOService.measureAuditDelivery d organizationId start).bad = 0
  contiguous : (∀ delivery ∈ d.windowDeliveries organizationId start, delivery.status = .delivered) →
    (SLOService.measureAuditDelivery d organizationId start).chainContiguous = true
  health : (OperationalHealthService.auditHealth d organizationId).chainValid = true
  removal : ∀ event ∈ d.windowEvents organizationId start,
    (∃ first ∈ d.auditEvents, first.organizationId = event.organizationId ∧ first.sequence < event.sequence) →
    (∃ last ∈ d.auditEvents, last.organizationId = event.organizationId ∧ event.sequence < last.sequence) →
      ChainReported (d.without event) organizationId start
  alteration : ∀ event ∈ d.windowEvents organizationId start, ∀ hash, hash ≠ event.previousEventHash →
    ChainReported (d.withPrevious event hash) organizationId start

/-- The window does not cut through the history of an organization: with an
event it has all earlier ones, and with one in the middle all later ones. -/
def WholeHistories (d : GovernanceDb) (organizationId : Option String) (start : Nat) : Prop :=
  ∀ a ∈ d.auditEvents, ∀ b ∈ d.auditEvents, asked organizationId a.organizationId = true →
    b.organizationId = a.organizationId → a.sequence < b.sequence →
      (start ≤ b.createdAt → start ≤ a.createdAt) ∧ (1 < a.sequence → start ≤ a.createdAt → start ≤ b.createdAt)

section Verdicts
variable {d : GovernanceDb} {organizationId : Option String} {start : Nat}

theorem count_false_iff {verdicts : List Bool} : verdicts.count false = 0 ↔ ∀ verdict ∈ verdicts, verdict = true := by
  rw [List.count_eq_zero]
  refine ⟨fun absent verdict member => ?_, fun all member => absurd (all false member) (by decide)⟩
  cases verdict with
  | true => rfl
  | false => exact absurd member absent

theorem contiguous_iff : (SLOService.measureAuditDelivery d organizationId start).chainContiguous = true ↔
    Intact measureCheck (d.windowEvents organizationId start) := by
  rw [Intact, ← count_false_iff]
  exact beq_iff_eq

theorem bad_eq_zero_iff : (SLOService.measureAuditDelivery d organizationId start).bad = 0 ↔
    Intact measureCheck (d.windowEvents organizationId start) ∧
      ∀ delivery ∈ d.windowDeliveries organizationId start, delivery.status = .delivered := by
  rw [Intact, ← count_false_iff]
  unfold SLOService.measureAuditDelivery
  simp [Nat.add_eq_zero_iff, List.countP_eq_zero]

theorem chainValid_iff : (OperationalHealthService.auditHealth d organizationId).chainValid = true ↔
    Intact healthCheck (d.auditEvents.filter fun event => asked organizationId event.organizationId) := by
  unfold OperationalHealthService.auditHealth Intact
  dsimp only
  split
  · rename_i all
    simpa using all
  · rename_i some_
    simpa using some_

theorem chainReported_iff : ChainReported d organizationId start ↔
    ¬Intact measureCheck (d.windowEvents organizationId start) ∧
      ¬Intact healthCheck (d.auditEvents.filter fun event => asked organizationId event.organizationId) := by
  rw [← contiguous_iff, ← chainValid_iff, Bool.not_eq_true, Bool.not_eq_true]
  constructor
  · rintro ⟨-, contiguous, health⟩
    exact ⟨contiguous, health⟩
  · rintro ⟨contiguous, health⟩
    refine ⟨Nat.pos_of_ne_zero fun none => ?_, contiguous, health⟩
    have intact := contiguous_iff.mpr (bad_eq_zero_iff.mp none).1
    rw [contiguous] at intact
    cases intact

end Verdicts

section Log
variable {env : GovernanceEnv} {d : GovernanceDb} {events : List TenantAuditEvent} {p : TenantAuditEvent → Bool}

variable {before : Option String} {n : Nat}

theorem measure_along (linked : (auditLink env).Linked n before events) :
    measureCheck.Along before events := by
  induction events generalizing n before with
  | nil => trivial
  | cons event rest ih =>
    obtain ⟨-, previous, -, tail⟩ := linked
    exact ⟨beq_iff_eq.mpr previous, ih tail⟩

theorem health_along_after {hash : String} (linked : (auditLink env).Linked (n + 1) (some hash) events) :
    healthCheck.Along (some (n, hash)) events := by
  induction events generalizing n hash with
  | nil => trivial
  | cons event rest ih =>
    obtain ⟨number, previous, -, tail⟩ := linked
    have sequence : event.sequence = n + 1 := number
    refine ⟨?_, ?_⟩
    · exact Bool.and_eq_true_iff.mpr ⟨beq_iff_eq.mpr sequence, beq_iff_eq.mpr previous⟩
    · have place : healthCheck.mark event = (n + 1, event.eventHash) := by rw [← sequence]; rfl
      rw [place]
      exact ih tail

theorem health_along (linked : (auditLink env).Linked 1 none events) : healthCheck.Along none events := by
  cases events with
  | nil => trivial
  | cons event rest =>
    obtain ⟨number, previous, -, tail⟩ := linked
    have sequence : event.sequence = 1 := number
    refine ⟨?_, ?_⟩
    · exact Bool.and_eq_true_iff.mpr ⟨beq_iff_eq.mpr sequence, beq_iff_eq.mpr previous⟩
    · have place : healthCheck.mark event = (1, event.eventHash) := by rw [← sequence]; rfl
      rw [place]
      exact health_along_after tail

theorem eventHashes_distinct (ideal : Function.Injective env.sha256) (linked : (auditLink env).Linked n before events) :
    (events.map measureCheck.mark).Nodup := by
  refine List.pairwise_map.mpr (linked.ascending.imp_of_mem fun inA inB below same => ?_)
  have hashes := (linked.sound inA).1.symm.trans (same.trans (linked.sound inB).1)
  exact below.ne (sequence_of_hash ideal hashes)

theorem eventPlaces_distinct (linked : (auditLink env).Linked n before events) :
    (events.map healthCheck.mark).Nodup := by
  refine List.pairwise_map.mpr (linked.ascending.imp fun below same => ?_)
  exact below.ne (congrArg Prod.fst same)

theorem healthCheck_sole (a b : Option (Nat × String)) (event : TenantAuditEvent)
    (fitsA : healthCheck.fits a event = true) (fitsB : healthCheck.fits b event = true) : a = b := by
  cases a with
  | none =>
    cases b with
    | none => rfl
    | some prior =>
      simp only [healthCheck, Bool.and_eq_true, beq_iff_eq] at fitsA fitsB
      rw [fitsA.2] at fitsB
      cases fitsB.2
  | some earlier =>
    cases b with
    | none =>
      simp only [healthCheck, Bool.and_eq_true, beq_iff_eq] at fitsA fitsB
      rw [fitsB.2] at fitsA
      cases fitsA.2
    | some prior =>
      simp only [healthCheck, Bool.and_eq_true, beq_iff_eq] at fitsA fitsB
      have numbers : earlier.1 = prior.1 := by omega
      have hashes : earlier.2 = prior.2 := Option.some.inj (fitsA.2.symm.trans fitsB.2)
      rw [Prod.ext numbers hashes]

/-- Nothing is left out before an event that is picked. -/
def InitialParts (d : GovernanceDb) (p : TenantAuditEvent → Bool) : Prop :=
  ∀ a ∈ d.auditEvents, ∀ b ∈ d.auditEvents, b.organizationId = a.organizationId → a.sequence < b.sequence →
    p b = true → p a = true

theorem measure_intact_iff (ideal : Function.Injective env.sha256) (linked : AuditLinked env d)
    (named : ∀ event ∈ d.auditEvents, event.organizationId ≠ "") :
    Intact measureCheck (d.auditEvents.filter p) ↔ InitialParts d p := by
  refine intact_filter_iff linked (fun event member => ?_) (fun organizationId => measure_along (linked organizationId))
    (fun a b event fitsA fitsB => ?_) fun organizationId => eventHashes_distinct ideal (linked organizationId)
  · simp [measureCheck, auditScope, present, Option.filter, named event member]
  · exact (beq_iff_eq.mp fitsA).symm.trans (beq_iff_eq.mp fitsB)

theorem health_intact_iff (linked : AuditLinked env d) :
    Intact healthCheck (d.auditEvents.filter p) ↔ InitialParts d p :=
  intact_filter_iff linked (fun _ _ => rfl) (fun organizationId => health_along (linked organizationId))
    healthCheck_sole fun organizationId => eventPlaces_distinct (linked organizationId)

theorem renamed_broken {μ : Type} {check : ScopedCheck TenantAuditEvent String μ} {event : TenantAuditEvent}
    {hash : Option String} (linked : AuditLinked env d)
    (keyed : ∀ row ∈ d.auditEvents, check.scope row = row.organizationId)
    (keptScope : ∀ row, check.scope (event.renamed hash row) = check.scope row)
    (keptMark : ∀ row, check.mark (event.renamed hash row) = check.mark row)
    (breaks : ∀ mark, check.fits mark event = true → check.fits mark (event.renamed hash event) ≠ true)
    (picked : event ∈ d.auditEvents.filter p) (intact : Intact check (d.auditEvents.filter p)) :
    ¬Intact check ((d.auditEvents.filter p).map (event.renamed hash)) := by
  have place : ∀ row, (event.renamed hash row).organizationId = row.organizationId ∧
      (event.renamed hash row).sequence = row.sequence := by
    intro row
    unfold TenantAuditEvent.renamed
    split <;> exact ⟨rfl, rfl⟩
  have mapped : ∀ organizationId, ofTenant organizationId ((d.auditEvents.filter p).map (event.renamed hash)) =
      (ofTenant organizationId (d.auditEvents.filter p)).map (event.renamed hash) := by
    intro organizationId
    unfold ofTenant
    rw [List.filter_map]
    congr 1
    exact List.filter_congr fun row _ => by simp [place]
  have ascending : ∀ organizationId, (ofTenant organizationId (d.auditEvents.filter p)).Pairwise fun a b =>
      a.sequence < b.sequence := by
    intro organizationId
    rw [ofTenant_filter, ofTenant_eq]
    exact (linked organizationId).ascending.sublist List.filter_sublist
  rw [intact_iff (fun row member => keyed row (List.mem_of_mem_filter member)) ascending] at intact
  rw [intact_iff]
  · intro all
    have chain := all event.organizationId
    rw [mapped] at chain
    have member : event ∈ ofTenant event.organizationId (d.auditEvents.filter p) :=
      List.mem_filter.mpr ⟨picked, decide_eq_true rfl⟩
    exact (intact event.organizationId).broken keptMark member breaks chain
  · intro row member
    obtain ⟨old, inRows, rfl⟩ := List.mem_map.mp member
    rw [keptScope, (place old).1]
    exact keyed old (List.mem_of_mem_filter inRows)
  · intro organizationId
    rw [mapped, List.pairwise_map]
    refine (ascending organizationId).imp fun below => ?_
    rw [(place _).2, (place _).2]
    exact below

end Log

section Detection
variable {env : GovernanceEnv} {d : GovernanceDb} {organizationId : Option String} {start : Nat}
  {event : TenantAuditEvent} {hash : Option String}

def inWindow (organizationId : Option String) (start : Nat) (event : TenantAuditEvent) : Bool :=
  decide (start ≤ event.createdAt) && asked organizationId event.organizationId

theorem samePlace_self (event : TenantAuditEvent) : samePlace event event = true := by simp [samePlace]

theorem windowEvents_without : (d.without event).windowEvents organizationId start =
    d.auditEvents.filter fun row => inWindow organizationId start row && !samePlace row event :=
  List.filter_filter

theorem auditEvents_without :
    ((d.without event).auditEvents.filter fun row => asked organizationId row.organizationId) =
    d.auditEvents.filter fun row => asked organizationId row.organizationId && !samePlace row event :=
  List.filter_filter

theorem renamed_kept (row : TenantAuditEvent) : (event.renamed hash row).organizationId = row.organizationId ∧
    (event.renamed hash row).createdAt = row.createdAt ∧ (event.renamed hash row).sequence = row.sequence ∧
      (event.renamed hash row).eventHash = row.eventHash := by
  unfold TenantAuditEvent.renamed
  split <;> exact ⟨rfl, rfl, rfl, rfl⟩

theorem windowEvents_withPrevious : (d.withPrevious event hash).windowEvents organizationId start =
    (d.windowEvents organizationId start).map (event.renamed hash) := by
  unfold GovernanceDb.withPrevious GovernanceDb.windowEvents
  rw [List.filter_map]
  congr 1
  exact List.filter_congr fun row _ => by simp [renamed_kept]

theorem auditEvents_withPrevious :
    ((d.withPrevious event hash).auditEvents.filter fun row => asked organizationId row.organizationId) =
      (d.auditEvents.filter fun row => asked organizationId row.organizationId).map (event.renamed hash) := by
  unfold GovernanceDb.withPrevious
  rw [List.filter_map]
  congr 1
  exact List.filter_congr fun row _ => by simp [renamed_kept]

theorem renamed_self : event.renamed hash event = { event with previousEventHash := hash } := by
  rw [TenantAuditEvent.renamed, if_pos (samePlace_self event)]

theorem sequence_pos {first : TenantAuditEvent} (linked : AuditLinked env d) (member : first ∈ d.auditEvents) :
    1 ≤ first.sequence := by
  exact ((linked first.organizationId).number_lt (mem_auditEventsOf.mpr ⟨member, rfl⟩)).1

section
variable (ideal : Function.Injective env.sha256) (linked : AuditLinked env d)
  (named : ∀ event ∈ d.auditEvents, event.organizationId ≠ "")
include ideal linked named

theorem audit_checked_of_whole (whole : WholeHistories d organizationId start) :
    AuditChecked d organizationId start := by
  have initial : InitialParts d (inWindow organizationId start) := by
    intro a inA b inB same below windowed
    obtain ⟨late, inScope⟩ := Bool.and_eq_true_iff.mp windowed
    rw [same] at inScope
    have earlier := (whole a inA b inB inScope same below).1 (of_decide_eq_true late)
    exact Bool.and_eq_true_iff.mpr ⟨decide_eq_true earlier, inScope⟩
  have everything : InitialParts d fun row => asked organizationId row.organizationId := by
    intro a inA b inB same below inScope
    dsimp only at inScope ⊢
    rwa [same] at inScope
  have measured : Intact measureCheck (d.windowEvents organizationId start) :=
    (measure_intact_iff ideal linked named).mpr initial
  have healthy : Intact healthCheck (d.auditEvents.filter fun row => asked organizationId row.organizationId) :=
    (health_intact_iff linked).mpr everything
  constructor
  · exact fun delivered => bad_eq_zero_iff.mpr ⟨measured, delivered⟩
  · exact fun _ => contiguous_iff.mpr measured
  · exact chainValid_iff.mpr healthy
  · rintro event member ⟨first, inFirst, ofFirst, before⟩ ⟨last, inLast, ofLast, after⟩
    obtain ⟨inLog, windowed⟩ := List.mem_filter.mp member
    obtain ⟨late, inScope⟩ := Bool.and_eq_true_iff.mp windowed
    have middle : 1 < event.sequence := lt_of_le_of_lt (sequence_pos linked inFirst) before
    have alsoLate := (whole event inLog last inLast inScope ofLast after).2 middle (of_decide_eq_true late)
    have other : (!samePlace last event) = true := by simp [samePlace, after.ne']
    have gone : (!samePlace event event) = false := by rw [samePlace_self]; rfl
    rw [chainReported_iff, windowEvents_without, auditEvents_without, measure_intact_iff ideal linked named,
      health_intact_iff linked]
    constructor
    · intro parts
      have kept := parts event inLog last inLast ofLast after
        (by simp [inWindow, alsoLate, other, ofLast, inScope])
      dsimp only at kept
      rw [gone, Bool.and_false] at kept
      cases kept
    · intro parts
      have kept := parts event inLog last inLast ofLast after (by simp [other, ofLast, inScope])
      dsimp only at kept
      rw [gone, Bool.and_false] at kept
      cases kept
  · intro event member hash different
    obtain ⟨inLog, windowed⟩ := List.mem_filter.mp member
    obtain ⟨late, inScope⟩ := Bool.and_eq_true_iff.mp windowed
    rw [chainReported_iff, windowEvents_withPrevious, auditEvents_withPrevious]
    constructor
    · refine renamed_broken linked (fun row inRows => ?_) (fun row => ?_)
        (fun row => (renamed_kept row).2.2.2) ?_ member
        measured
      · simp [measureCheck, auditScope, present, Option.filter, named row inRows]
      · simp [measureCheck, auditScope, renamed_kept]
      · intro mark fits
        rw [renamed_self]
        have names : event.previousEventHash = mark := beq_iff_eq.mp fits
        simpa [measureCheck, ← names] using different
    · refine renamed_broken linked (fun _ _ => rfl) (fun row => (renamed_kept row).1) (fun row => ?_) ?_
        (List.mem_filter.mpr ⟨inLog, inScope⟩) healthy
      · simp [healthCheck, renamed_kept]
      · intro mark fits
        rw [renamed_self]
        cases mark with
        | none =>
          have names : event.previousEventHash = none := beq_iff_eq.mp (Bool.and_eq_true_iff.mp fits).2
          rw [names] at different
          simp [healthCheck, different]
        | some prior =>
          have names : event.previousEventHash = some prior.2 := beq_iff_eq.mp (Bool.and_eq_true_iff.mp fits).2
          rw [names] at different
          simp [healthCheck, different]

theorem whole_of_audit_checked
    (delivered : ∀ delivery ∈ d.windowDeliveries organizationId start, delivery.status = .delivered)
    (checked : AuditChecked d organizationId start) : WholeHistories d organizationId start := by
  have initial : InitialParts d (inWindow organizationId start) :=
    (measure_intact_iff ideal linked named).mp (contiguous_iff.mp (checked.contiguous delivered))
  have windowed : ∀ row, asked organizationId row.organizationId = true →
      (inWindow organizationId start row = true ↔ start ≤ row.createdAt) := by
    intro row inScope
    simp [inWindow, inScope]
  intro a inA b inB inScope same below
  have inScopeB : asked organizationId b.organizationId = true := by rwa [same]
  refine ⟨fun late => (windowed a inScope).mp (initial a inA b inB same below ((windowed b inScopeB).mpr late)), ?_⟩
  intro middle late
  by_contra early
  -- The last event of the chain in the window could be taken out unnoticed.
  obtain ⟨event, newest⟩ : ∃ event, ((d.eventsOf a.organizationId).filter (inWindow organizationId start)).argmax
      TenantAuditEvent.sequence = some event := by
    cases found : ((d.eventsOf a.organizationId).filter (inWindow organizationId start)).argmax
        TenantAuditEvent.sequence with
    | some event => exact ⟨event, rfl⟩
    | none =>
      have empty := List.argmax_eq_none.mp found
      have member : a ∈ (d.eventsOf a.organizationId).filter (inWindow organizationId start) :=
        List.mem_filter.mpr ⟨mem_auditEventsOf.mpr ⟨inA, rfl⟩, (windowed a inScope).mpr late⟩
      rw [empty] at member
      cases member
  have top : ∀ row ∈ d.auditEvents, row.organizationId = a.organizationId →
      inWindow organizationId start row = true → row.sequence ≤ event.sequence := by
    intro row inLog ofRow within
    exact List.le_of_mem_argmax (List.mem_filter.mpr ⟨mem_auditEventsOf.mpr ⟨inLog, ofRow⟩, within⟩) newest
  obtain ⟨inChain, within⟩ := List.mem_filter.mp (List.argmax_mem newest)
  obtain ⟨inLog, ofEvent⟩ := mem_auditEventsOf.mp inChain
  have above : a.sequence ≤ event.sequence := top a inA rfl ((windowed a inScope).mpr late)
  have beneath : event.sequence < b.sequence := by
    by_contra reached
    rcases Nat.lt_or_eq_of_le (Nat.le_of_not_lt reached) with later | equal
    · have tooLate := initial b inB event inLog (ofEvent.trans same.symm) later within
      exact early ((windowed b inScopeB).mp tooLate)
    · obtain rfl : b = event :=
        (linked a.organizationId).number_inj (mem_auditEventsOf.mpr ⟨inB, same⟩) inChain equal
      exact early ((windowed b inScopeB).mp within)
  obtain ⟨first, inFirst, ofFirst, before⟩ : ∃ first ∈ d.auditEvents, first.organizationId = event.organizationId ∧
      first.sequence < event.sequence := by
    have chain := linked a.organizationId
    have ofAll : ∀ row ∈ d.eventsOf a.organizationId, row ∈ d.auditEvents ∧ row.organizationId = a.organizationId :=
      fun row member => mem_auditEventsOf.mp member
    cases history : d.eventsOf a.organizationId with
    | nil => rw [history] at inChain; cases inChain
    | cons first rest =>
      rw [history] at chain ofAll
      have number : first.sequence = 1 := chain.1
      obtain ⟨logged, ofRow⟩ := ofAll first List.mem_cons_self
      exact ⟨first, logged, ofRow.trans ofEvent.symm, by omega⟩
  have reported := checked.removal event (List.mem_filter.mpr ⟨inLog, within⟩) ⟨first, inFirst, ofFirst, before⟩
    ⟨b, inB, same.trans ofEvent.symm, beneath⟩
  rw [chainReported_iff, windowEvents_without, measure_intact_iff ideal linked named] at reported
  refine reported.1 fun x inX y inY sameChain order picked => ?_
  obtain ⟨inside, -⟩ := Bool.and_eq_true_iff.mp picked
  refine Bool.and_eq_true_iff.mpr ⟨initial x inX y inY sameChain order inside, ?_⟩
  rw [Bool.not_eq_true', ← Bool.not_eq_true]
  intro place
  obtain ⟨ofX, atX⟩ := Bool.and_eq_true_iff.mp place
  have bound := top y inY (sameChain.trans ((beq_iff_eq.mp ofX).trans ofEvent)) inside
  have number : x.sequence = event.sequence := beq_iff_eq.mp atX
  omega

end

end Detection

abbrev AuditRun (env : GovernanceEnv) : GovernanceDb → GovernanceDb → Prop :=
  GovernanceExecution env fun _ _ op => ∃ auth entry, op = .record auth entry

section Runs
variable {env : GovernanceEnv} {auth : Option AuthContext} {entry : AuditEntry} {d e : GovernanceDb}

theorem record_after (supply : Supply)
    (known : ∀ event ∈ d.auditEvents, (d.organizations.find event.organizationId).isSome) :
    ((GovernanceOperation.record auth entry).after env d supply).organizations = d.organizations ∧
      ∀ event ∈ ((GovernanceOperation.record auth entry).after env d supply).auditEvents,
        (d.organizations.find event.organizationId).isSome := by
  have ends : ((GovernanceOperation.record auth entry).after env d supply) =
      (record env auth entry (start d supply)).2.committed := by
    exact congrArg Session.committed (Tx.bind_pure_state _ _ _)
  rw [ends]
  have outcome : (∃ e, record env auth entry (start d supply) = (.error e, start d supply) ∧
      d.organizations.find entry.organizationId = none) ∨
      ∃ event t, record env auth entry (start d supply) = (.ok event, t) ∧
        Audited env entry.organizationId (start d supply) t event := record_run entry
  rcases outcome with ⟨e, raised, -⟩ | ⟨event, t, ran, audited⟩
  · rw [raised]
    exact ⟨rfl, known⟩
  · obtain ⟨organization, found⟩ : ∃ organization, d.organizations.find entry.organizationId = some organization := by
      unfold record at ran
      rw [bind_view] at ran
      obtain ⟨organization, mid, looked, -⟩ := Tx.bind_ok ran
      exact ⟨organization, (Tx.expect_ok looked).1⟩
    rw [ran, audited.committed, audited.recorded.store]
    refine ⟨rfl, fun row member => ?_⟩
    rcases List.mem_append.mp member with old | new
    · exact known row old
    · cases List.mem_singleton.mp new
      rw [audited.recorded.next.organization, found]
      rfl

theorem AuditRun.named (run : AuditRun env d e) (empty : d.auditEvents = [])
    (ids : ∀ organization ∈ d.organizations.rows, organization.id ≠ "") :
    ∀ event ∈ e.auditEvents, event.organizationId ≠ "" := by
  have kept : e.organizations = d.organizations ∧
      ∀ event ∈ e.auditEvents, (d.organizations.find event.organizationId).isSome := by
    refine run.keeps (P := fun f => f.organizations = d.organizations ∧
      ∀ event ∈ f.auditEvents, (d.organizations.find event.organizationId).isSome) ?_ ⟨rfl, by simp [empty]⟩
    rintro f supply op ⟨auth, entry, rfl⟩ ⟨same, known⟩
    rw [← same] at known ⊢
    exact record_after supply known
  intro event member unnamed
  obtain ⟨organization, found⟩ := Option.isSome_iff_exists.mp (kept.2 event member)
  exact ids organization (Table.find_mem found) ((Table.find_key found).trans unnamed)

end Runs

/-- The checks judge a log that was only ever recorded rightly where the
window holds whole histories; with all deliveries done, nowhere else. -/
theorem audit_chain_checked_iff {env : GovernanceEnv} {d e : GovernanceDb} {organizationId : Option String}
    {start : Nat}
    (ideal : Function.Injective env.sha256) (run : AuditRun env d e) (empty : d.auditEvents = [])
    (ids : ∀ organization ∈ d.organizations.rows, organization.id ≠ "") :
    (WholeHistories e organizationId start → AuditChecked e organizationId start) ∧
      ((∀ delivery ∈ e.windowDeliveries organizationId start, delivery.status = .delivered) →
        AuditChecked e organizationId start → WholeHistories e organizationId start) := by
  have linked : AuditLinked env e := (audit_log_grows run (.of_empty empty)).1
  have named := AuditRun.named run empty ids
  exact ⟨audit_checked_of_whole ideal linked named, whole_of_audit_checked ideal linked named⟩

namespace GovernanceSample

/-- Two records of an organization, at the instants 0 and 10. -/
def twiceRecorded : GovernanceDb :=
  (GovernanceOperation.record none (entry none)).after env
    ((GovernanceOperation.record none (entry none)).after env (store (sink none 5)) (supplyOf "r" 0)) (supplyOf "s" 10)

theorem twiceRecorded_run : AuditRun env (store (sink none 5)) twiceRecorded := by
  have first : AuditRun env (store (sink none 5)) _ :=
    Path.start.next (.record none (entry none)) (supplyOf "r" 0) ⟨none, entry none, rfl⟩
  exact first.next (.record none (entry none)) (supplyOf "s" 10) ⟨none, entry none, rfl⟩

end GovernanceSample

open GovernanceSample in
/-- A window that holds both records. -/
theorem audit_chain_checked_sample : AuditChecked twiceRecorded none 0 := by
  refine (audit_chain_checked_iff Function.injective_id twiceRecorded_run rfl ?_).1 ?_
  · intro organization member
    cases List.mem_singleton.mp member
    decide
  · intro a _ b _ _ _ _
    exact ⟨fun _ => Nat.zero_le _, fun _ _ => Nat.zero_le _⟩

open GovernanceSample in
/-- A window that begins between the two records finds the chain broken. -/
theorem window_start_reported :
    AuditRun env (store (sink none 5)) twiceRecorded ∧ ¬AuditChecked twiceRecorded none 5 := by
  refine ⟨twiceRecorded_run, fun checked => ?_⟩
  have judged : (SLOService.measureAuditDelivery twiceRecorded none 5).bad = 1 := by decide +kernel
  have delivered : twiceRecorded.windowDeliveries none 5 = [] := by decide +kernel
  have good := checked.bad (by simp [delivered])
  omega

end SacmRuntime
