/-
SecureMonitor/Proofs/Messages.lean

The account of messages.  The message interface counts the arguments it was handed,
and everybody who sees the traps of a core and the answers can count along:

    answered as the interface answers, and function 4 of the interface    one more
    anything else                                                         no more

The answer alone does not tell, as all three functions of the interface complete in
the same way; nor does the identifier, as a fast call of function 4 is refused, and
any call may come at a bad time.  Both together do (`takesMessage`).

* one trap, on any core: the counter goes by what is seen (`counts_handle`);
* a run, from any core: it is ahead by the number of messages taken, modulo the
  power of two that does not fit in it (`messages_coreAfter`);
* a run from the start with too few traps to fill it: it is that number
  (`messages_are_counted`).
-/
import Mathlib.Algebra.Group.Nat.Defs
import SecureMonitor.Proofs.Nesting

namespace SecureMonitor

/-! ### The functions of the message interface -/

theorem OpTeeFunction.ofNumber?_eq_callWithArg_iff {n : Nat} :
    ofNumber? n = some callWithArg ↔ n = 4 := by
  constructor
  · intro h
    unfold ofNumber? at h
    split at h
    · cases h
    · rfl
    · cases h
    · cases h
  · rintro rfl
    rfl

theorem Call.route_optee {origin : TrapOrigin} {raw : UInt64} {id : CallId} {fn : OpTeeFunction}
    (h : Call.route origin raw = .ok (id, .optee fn)) :
    CallId.decode raw = .ok id ∧ id.owner = .optee ∧
      OpTeeFunction.ofNumber? id.number.toNat = some fn := by
  obtain ⟨howner, hnumber⟩ := Call.ofNumber?_of_route h
  obtain ⟨found, hfound, ⟨⟩⟩ := Option.map_eq_some_iff.mp hnumber
  exact ⟨(Call.route_eq_ok h).1, howner, hfound⟩

/-- The identifier asks for the message function of the message interface. -/
def CallId.IsMessage (id : CallId) : Prop := id.owner = .optee ∧ id.number = 4

instance (id : CallId) : Decidable id.IsMessage :=
  inferInstanceAs (Decidable (id.owner = .optee ∧ id.number = 4))

theorem Call.resolve_message {id : CallId} (h : id.IsMessage) :
    Call.resolve id = .ok (.optee .callWithArg) := by
  rw [Call.resolve_eq_ok_iff, h.1, h.2]
  rfl

theorem CallId.isMessage_iff_of_route {origin : TrapOrigin} {raw : UInt64} {id : CallId}
    {fn : OpTeeFunction} (h : Call.route origin raw = .ok (id, .optee fn)) :
    id.IsMessage ↔ fn = .callWithArg := by
  obtain ⟨-, howner, hnumber⟩ := Call.route_optee h
  constructor
  · rintro ⟨-, hmessage⟩
    rw [hmessage] at hnumber
    exact (Option.some.inj hnumber).symm
  · rintro rfl
    have hmessage := OpTeeFunction.ofNumber?_eq_callWithArg_iff.mp hnumber
    exact ⟨howner, UInt16.toNat_inj.mp hmessage⟩

/-! ### What is seen of a message -/

variable {γ : Type}

/-- A message was taken: the trap that was answered so had the identifier of one, and the
answer is that of the message interface. -/
def Response.takesMessage (r : Response γ) (f : Frame) : Bool :=
  match r.result, CallId.decode f.callId with
  | .ok (.completed .opteeEntryDone), .ok id => decide id.IsMessage
  | _, _ => false

theorem Response.takesMessage_eq_true_iff {r : Response γ} {f : Frame} :
    r.takesMessage f = true ↔
      r.result = .ok (.completed .opteeEntryDone) ∧
        ∃ id, CallId.decode f.callId = .ok id ∧ id.IsMessage := by
  unfold takesMessage
  split
  · rename_i id hresult hdecode
    rw [decide_eq_true_iff]
    constructor
    · intro hmessage
      exact ⟨hresult, id, hdecode, hmessage⟩
    · rintro ⟨-, id', hdecode', hmessage⟩
      cases hdecode.symm.trans hdecode'
      exact hmessage
  · rename_i hother
    constructor
    · intro h
      cases h
    · rintro ⟨hresult, id, hdecode, -⟩
      exact absurd hdecode (hother id hresult)

theorem Response.takesMessage_eq_false {r : Response γ} {f : Frame}
    (h : r.result ≠ .ok (.completed .opteeEntryDone)) : r.takesMessage f = false := by
  rw [Bool.eq_false_iff]
  intro htaken
  exact h (Response.takesMessage_eq_true_iff.mp htaken).1

/-- All functions of the interface are answered alike, so the identifier decides. -/
theorem Response.takesMessage_iff_of_route {r : Response γ} {f : Frame} {origin : TrapOrigin}
    {id : CallId} {fn : OpTeeFunction} (hresult : r.result = .ok (.completed .opteeEntryDone))
    (routed : Call.route origin f.callId = .ok (id, .optee fn)) :
    r.takesMessage f = true ↔ fn = .callWithArg := by
  have hdecode := (Call.route_eq_ok routed).1
  rw [← CallId.isMessage_iff_of_route routed, Response.takesMessage_eq_true_iff]
  constructor
  · rintro ⟨-, id', hdecode', hmessage⟩
    cases hdecode.symm.trans hdecode'
    exact hmessage
  · intro hmessage
    exact ⟨hresult, id, hdecode, hmessage⟩

/-! ### One trap -/

/-- The interface counts the messages among its calls, and those are yielding ones. -/
theorem OpTee.messages_of_handle {s s' : OpTee} {fn : OpTeeFunction} {request : Request}
    {reply : Reply} (h : s.handle fn request = (.ok reply, s')) :
    s'.messages = s.messages + (if fn = .callWithArg then 1 else 0) ∧
      (fn = .callWithArg → request.id.callType = .yielding) := by
  cases fn with
  | log =>
    cases h
    refine ⟨(UInt64.add_zero _).symm, ?_⟩
    intro hfn
    cases hfn
  | callWithArg =>
    simp only [OpTee.handle] at h
    split at h
    · rename_i hyielding
      cases h
      exact ⟨rfl, fun _ => hyielding⟩
    · cases h
  | callsRevision =>
    cases h
    refine ⟨(UInt64.add_zero _).symm, ?_⟩
    intro hfn
    cases hfn

namespace Core

/-- The counter goes by what is seen of the trap, and a message that is taken came in a
yielding call. -/
structure Counts (core : Core) (f : Frame) (step : Step γ) : Prop where
  messages : step.core.services.optee.messages =
    core.services.optee.messages + (if step.takesMessage f then 1 else 0)
  yielding : step.takesMessage f = true →
    ∀ id, CallId.decode f.callId = .ok id → id.callType = .yielding

/-- Where the answer is not that of the interface, there is nothing to count. -/
theorem counts_of_other {core : Core} {f : Frame} {step : Step γ}
    (other : step.result ≠ .ok (.completed .opteeEntryDone))
    (same : step.core.services.optee = core.services.optee) : core.Counts f step := by
  have hnot : step.takesMessage f = false := Response.takesMessage_eq_false other
  constructor
  · rw [hnot, same]
    exact (UInt64.add_zero _).symm
  · intro htaken
    exact nomatch hnot.symm.trans htaken

variable [InterruptController γ]

section

variable {core : Core} {v : TrapVector} {f : Frame} {id : CallId} {controller : γ}
  {step : Step γ}

theorem Handles.counts (h : core.Handles v f controller step) : core.Counts f step := by
  cases h with
  | ignored => exact counts_of_other nofun rfl
  | fatal => exact counts_of_other nofun rfl
  | forwarded => exact counts_of_other nofun rfl
  | refused => exact counts_of_other nofun rfl
  | completed _ _ routed served =>
    cases served with
    | @tsp fn =>
      -- no function of the payload completes like the interface
      refine counts_of_other ?_ rfl
      cases fn <;> nofun
    | @optee fn _ _ served =>
      obtain ⟨hmessages, hyielding⟩ := OpTee.messages_of_handle served
      constructor
      · refine hmessages.trans (congrArg _ (ite_congr ?_ (fun _ => rfl) fun _ => rfl))
        exact propext (Response.takesMessage_iff_of_route rfl routed).symm
      · intro h id' hdecode'
        cases (Call.route_eq_ok routed).1.symm.trans hdecode'
        exact hyielding ((Response.takesMessage_iff_of_route rfl routed).mp h)
    | invoke => exact counts_of_other nofun rfl
    | leave => exact counts_of_other nofun rfl

/-- So it is on any core: one that is at another trap takes no message, whatever comes. -/
theorem counts_handle (core : Core) (v : TrapVector) (f : Frame) (controller : γ) :
    core.Counts f (core.handle v f controller) := by
  by_cases hs : core.Settled
  · exact (handles_handle hs v f controller).counts
  · obtain ⟨hi, hh⟩ := not_or.mp hs
    cases hd : v.disposition f.esr with
    | fatal fault =>
      obtain ⟨hresult, -, -, hcore⟩ := handle_of_fatal hh hd controller
      apply counts_of_other
      · rw [hresult]
        nofun
      · rw [hcore]
    | forward =>
      obtain ⟨hresult, -, -, hcore⟩ := handle_of_forward hh hd controller
      apply counts_of_other
      · rw [hresult]
        nofun
      · rw [hcore]
    | call =>
      obtain ⟨hresult, -, -, hcore⟩ := handle_of_nested_call hi hh hd controller
      apply counts_of_other
      · rw [hresult]
        nofun
      · rw [hcore]

/-- What becomes of a message that gets to the interface.  It is taken from a yielding
call, and a fast call is refused for its type. -/
theorem result_handle_message (idle : core.phase = .idle) (found : v.disposition f.esr = .call)
    (routed : Call.route v.origin f.callId = .ok (id, .optee .callWithArg)) (controller : γ) :
    (core.handle v f controller).result =
      .ok (if id.callType = .yielding then .completed .opteeEntryDone
        else .refused (.malformed .callTypeMismatch)) := by
  by_cases htype : id.callType = .yielding
  · have hserve : core.services.optee.handle .callWithArg (core.request f id) =
        (.ok { event := .opteeEntryDone, results := { x1 := OpTee.success } },
          { core.services.optee with messages := core.services.optee.messages + 1 }) :=
      if_pos htype
    have hperform := core.perform_optee f id .callWithArg
    rw [hserve] at hperform
    rw [if_pos htype, handle_of_served idle found routed (congrArg Performed.result hperform)]
  · have hserve : core.services.optee.handle .callWithArg (core.request f id) =
        (.error (.malformed .callTypeMismatch), core.services.optee) := if_neg htype
    have hperform := core.perform_optee f id .callWithArg
    rw [hserve] at hperform
    rw [if_neg htype, handle_of_unserved idle found routed (congrArg Performed.result hperform)]

end

/-! ### Whole runs -/

/-- The messages taken in a run. -/
def messagesTaken (core : Core) (controller : γ) (traps : List (TrapVector × Frame)) : Nat :=
  (traps.zip (core.responses controller traps)).countP fun (t, r) => r.takesMessage t.2

section

variable (core : Core) (controller : γ) (v : TrapVector) (f : Frame)
  (traps : List (TrapVector × Frame))

theorem messagesTaken_cons :
    core.messagesTaken controller ((v, f) :: traps) =
      (if (core.handle v f controller).takesMessage f then 1 else 0) +
        (core.handle v f controller).core.messagesTaken (core.handle v f controller).controller
          traps := by
  rw [messagesTaken, responses_cons, List.zip_cons_cons, List.countP_cons, Nat.add_comm]
  rfl

/-- No more messages are taken than traps come in. -/
theorem messagesTaken_le_length : core.messagesTaken controller traps ≤ traps.length := by
  have hle : core.messagesTaken controller traps ≤
      (traps.zip (core.responses controller traps)).length := List.countP_le_length
  rw [List.length_zip, length_responses, Nat.min_self] at hle
  exact hle

/-- A run puts the counter forward by the messages taken in it, as far as it goes. -/
theorem messages_coreAfter :
    (core.coreAfter controller traps).services.optee.messages.toNat =
      (core.services.optee.messages.toNat + core.messagesTaken controller traps) % 2 ^ 64 := by
  induction traps generalizing core controller with
  | nil =>
    have hlt := core.services.optee.messages.toNat_lt
    exact (Nat.mod_eq_of_lt hlt).symm
  | cons t rest ih =>
    obtain ⟨v, f⟩ := t
    have hstep := (counts_handle core v f controller).messages
    rw [coreAfter_cons, ih, messagesTaken_cons, hstep, UInt64.toNat_add, Nat.mod_add_mod,
      ← Nat.add_assoc]
    split
    · rfl
    · rfl

theorem messagesTaken_append (before after : List (TrapVector × Frame)) :
    core.messagesTaken controller (before ++ after) =
      core.messagesTaken controller before +
        (core.coreAfter controller before).messagesTaken (core.controllerAfter controller before)
          after := by
  induction before generalizing core controller with
  | nil => exact (Nat.zero_add _).symm
  | cons t rest ih =>
    obtain ⟨v, f⟩ := t
    rw [List.cons_append, messagesTaken_cons, messagesTaken_cons, ih, Nat.add_assoc]
    rfl

/-- The messages of a longer run are those of a shorter one and more. -/
theorem messagesTaken_take_mono {m n : Nat} (h : m ≤ n) :
    core.messagesTaken controller (traps.take m) ≤
      core.messagesTaken controller (traps.take n) := by
  obtain ⟨k, rfl⟩ := Nat.exists_eq_add_of_le h
  rw [List.take_add, messagesTaken_append]
  exact Nat.le_add_right _ _

variable {traps} {v} {f}

/-- One trap more is one message more, or none, as its response has it. -/
theorem messagesTaken_take_succ {n : Nat} {r : Response γ} (ht : traps[n]? = some (v, f))
    (hr : (core.responses controller traps)[n]? = some r) :
    core.messagesTaken controller (traps.take (n + 1)) =
      core.messagesTaken controller (traps.take n) + if r.takesMessage f then 1 else 0 := by
  cases (getElem?_responses core controller ht).symm.trans hr
  rw [List.take_add_one, ht, messagesTaken_append]
  show _ + messagesTaken _ _ [(v, f)] = _
  rw [messagesTaken_cons]
  rfl

/-- A trap that is abandoned on its way has not got to the counter, and what comes in
after it does not either. -/
theorem optee_coreAfter_of_reach? {target : Checkpoint} {t : InFlight}
    (h : core.reach? v f target = some t) (nested : List (TrapVector × Frame)) :
    (t.progress.core.coreAfter controller nested).services.optee = core.services.optee := by
  have hcore := (untouched_of_reach? h).1
  have hphase : t.progress.core.phase = target.phase := by rw [hcore]
  rw [coreAfter_of_busy]
  · show t.progress.core.services.optee = _
    rw [hcore]
  · rw [hphase]
    cases target <;> nofun
  · rw [hphase]
    cases target <;> nofun

end

theorem messages_hosting (level : Level) (applets : List Applet) :
    (hosting level applets).services.optee.messages = 0 := by
  obtain ⟨a, h⟩ := hosting_eq level applets
  rw [h]

/-- Set up afresh, the counter is the number of messages taken, until there may be too
many for it. -/
theorem messages_eq_messagesTaken (level : Level) (applets : List Applet) (controller : γ)
    {traps : List (TrapVector × Frame)} (few : traps.length < 2 ^ 64) :
    ((hosting level applets).coreAfter controller traps).services.optee.messages.toNat =
      (hosting level applets).messagesTaken controller traps := by
  have hle := (hosting level applets).messagesTaken_le_length controller traps
  have hzero : (0 : UInt64).toNat = 0 := rfl
  rw [messages_coreAfter, messages_hosting, hzero, Nat.zero_add]
  exact Nat.mod_eq_of_lt (Nat.lt_of_le_of_lt hle few)

/-- The account of messages.  In any run of a monitor over fewer than `2 ^ 64` traps,
and after any number of them:

* the counter is the number of traps that had an identifier of function 4 of the
  message interface and were answered as the interface answers; this is no more than
  there were traps, so the counter has never gone over, and it never goes back;
* such a trap puts it forward by one and was a yielding call, and a trap that was
  answered in any other way, or had any other identifier, leaves it where it is;
* a call of the function that gets to the interface is taken and counted if it is a
  yielding one; a fast one is refused for its type, and is not counted;
* a trap that is abandoned at a checkpoint, and whatever comes in after that, does not
  touch it. -/
theorem messages_are_counted (level : Level) (applets : List Applet) (controller : γ)
    (traps : List (TrapVector × Frame)) (few : traps.length < 2 ^ 64) :
    let core := hosting level applets
    let responses := core.responses controller traps
    let coreAt := fun n => core.coreAfter controller (traps.take n)
    let count := fun n => (coreAt n).services.optee.messages.toNat
    (∀ n, count n = core.messagesTaken controller (traps.take n) ∧ count n ≤ n) ∧
    (∀ m n, m ≤ n → count m ≤ count n) ∧
    (∀ n v f r, traps[n]? = some (v, f) → responses[n]? = some r →
      (r.takesMessage f = true → count (n + 1) = count n + 1 ∧
        ∀ id, CallId.decode f.callId = .ok id → id.callType = .yielding) ∧
      (r.result ≠ .ok (.completed .opteeEntryDone) ∨
          (∀ id, CallId.decode f.callId = .ok id → ¬id.IsMessage) →
        count (n + 1) = count n)) ∧
    (∀ n v f id, traps[n]? = some (v, f) → (coreAt n).phase ≠ .halted → v.IsCall f →
      CallId.decode f.callId = .ok id → id.IsMessage →
      ¬(v.origin = .lowerAArch32 ∧ id.width = .smc64) → ∃ r, responses[n]? = some r ∧
        (id.callType = .yielding →
          r.result = .ok (.completed .opteeEntryDone) ∧ count (n + 1) = count n + 1) ∧
        (id.callType = .fast →
          r.result = .ok (.refused (.malformed .callTypeMismatch)) ∧
            count (n + 1) = count n)) ∧
    ∀ n v f target t, (coreAt n).reach? v f target = some t →
      ∀ (device : γ) (nested : List (TrapVector × Frame)),
        (t.progress.core.coreAfter device nested).services.optee = (coreAt n).services.optee := by
  intro core responses coreAt count
  have hcount (n : Nat) : count n = core.messagesTaken controller (traps.take n) := by
    have hshort := traps.length_take_le' n
    exact messages_eq_messagesTaken level applets controller (Nat.lt_of_le_of_lt hshort few)
  -- one trap more is one message more, or none
  have htaken {n : Nat} {v : TrapVector} {f : Frame} {r : Response γ}
      (ht : traps[n]? = some (v, f)) (hr : responses[n]? = some r)
      (hyes : r.takesMessage f = true) : count (n + 1) = count n + 1 := by
    rw [hcount, hcount, messagesTaken_take_succ _ _ ht hr, if_pos hyes]
  have hother {n : Nat} {v : TrapVector} {f : Frame} {r : Response γ}
      (ht : traps[n]? = some (v, f)) (hr : responses[n]? = some r)
      (hno : r.takesMessage f = false) : count (n + 1) = count n := by
    rw [hcount, hcount, messagesTaken_take_succ _ _ ht hr, hno]
    rfl
  refine ⟨?_, ?_, ?_, ?_, ?_⟩
  · intro n
    refine ⟨hcount n, ?_⟩
    rw [hcount]
    exact Nat.le_trans (core.messagesTaken_le_length _ _) (traps.length_take_le n)
  · intro m n hmn
    rw [hcount, hcount]
    exact messagesTaken_take_mono _ _ _ hmn
  · intro n v f r ht hr
    refine ⟨?_, ?_⟩
    · intro hyes
      refine ⟨htaken ht hr hyes, ?_⟩
      cases (getElem?_responses _ _ ht).symm.trans hr
      exact (counts_handle _ _ _ _).yielding hyes
    · rintro (hresult | hmessage)
      · exact hother ht hr (Response.takesMessage_eq_false hresult)
      · apply hother ht hr
        rw [Bool.eq_false_iff]
        intro hyes
        obtain ⟨-, id, hdecode, his⟩ := Response.takesMessage_eq_true_iff.mp hyes
        exact hmessage id hdecode his
  · intro n v f id ht awake hcall hdecode hmessage hwide
    have hsound : (coreAt n).Sound level := (sound_hosting level applets).coreAfter controller _
    have idle : (coreAt n).phase = .idle := hsound.settled.resolve_right awake
    have hroute := Call.route_eq_ok_iff.mpr ⟨hdecode, hwide, Call.resolve_message hmessage⟩
    have hresult := result_handle_message idle (TrapVector.isCall_iff.mp hcall) hroute
      (core.controllerAfter controller (traps.take n))
    have hresponse := getElem?_responses core controller ht
    refine ⟨_, hresponse, ?_, ?_⟩
    · intro hyielding
      rw [if_pos hyielding] at hresult
      refine ⟨hresult, htaken ht hresponse ?_⟩
      exact Response.takesMessage_eq_true_iff.mpr ⟨hresult, id, hdecode, hmessage⟩
    · intro hfast
      rw [hfast, if_neg nofun] at hresult
      refine ⟨hresult, hother ht hresponse (Response.takesMessage_eq_false ?_)⟩
      rw [hresult]
      nofun
  · intro n v f target t hreach device nested
    exact optee_coreAfter_of_reach? _ device hreach nested

/-- Five of six traps are for the message interface, and four of them are messages, of
which two are taken: one is a fast call, and one is a 64-bit call from 32-bit code.
All that complete have the same answer. -/
theorem messages_are_counted_two :
    let core := hosting .el3 []
    let call := fun origin id => ((⟨origin, .synchronous⟩ : TrapVector), Frame.calling 0x401 id {})
    let traps : List (TrapVector × Frame) :=
      [call .lowerAArch64 0x3e000004, call .lowerAArch64 0xbe000004,
        call .lowerAArch64 0xbe000001, (⟨.lowerAArch64, .irq⟩, Frame.calling 0x401 0 {}),
        call .lowerAArch32 0x7e000004, call .lowerAArch64 0x7e000004]
    let results := (core.responses (⟨[some 5]⟩ : InterruptQueue) traps).map (·.result.toOption)
    let coreAt := fun n => core.coreAfter (⟨[some 5]⟩ : InterruptQueue) (traps.take n)
    results = [some (.completed .opteeEntryDone),
        some (.refused (.malformed .callTypeMismatch)), some (.completed .opteeEntryDone),
        some (.forwarded .irq), some (.refused (.malformed .widthMismatch)),
        some (.completed .opteeEntryDone)] ∧
      (coreAt 1).services.optee.messages.toNat = 1 ∧
      (coreAt 5).services.optee.messages.toNat = 1 ∧
      (coreAt 6).services.optee.messages.toNat = 2 := by
  intro core call traps results coreAt
  have htaken1 : core.messagesTaken (⟨[some 5]⟩ : InterruptQueue) (traps.take 1) = 1 := by
    decide +zetaReduce
  have htaken5 : core.messagesTaken (⟨[some 5]⟩ : InterruptQueue) (traps.take 5) = 1 := by
    decide +zetaReduce
  have htaken6 : core.messagesTaken (⟨[some 5]⟩ : InterruptQueue) (traps.take 6) = 2 := by
    decide +zetaReduce
  have hcounted :=
    messages_are_counted .el3 [] (⟨[some 5]⟩ : InterruptQueue) traps (by decide +zetaReduce)
  have hcount (n : Nat) : (coreAt n).services.optee.messages.toNat =
      core.messagesTaken (⟨[some 5]⟩ : InterruptQueue) (traps.take n) := (hcounted.1 n).1
  exact ⟨by decide +zetaReduce, (hcount 1).trans htaken1, (hcount 5).trans htaken5,
    (hcount 6).trans htaken6⟩

end Core

end SecureMonitor
