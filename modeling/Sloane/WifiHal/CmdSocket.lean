import Mathlib.Data.List.Basic
import Sloane.Lib.Run
import Sloane.WifiHal.Commands

/-!
# Requests and answers on the command socket

Model of `WifiCommand::requestResponse(request)` and of the handlers that it gives to `nl_recvmsgs`
(`cpp_bindings.cpp`), with the kernel at the other end of `cmd_sock`.  The kernel answers the
requests in the order in which they are sent: each gets some replies and one message that ends the
answer.  `nl_recvmsgs` takes one message.  There is one socket for all callers, and
`no_seq_check` accepts every message.

* `requestResponse_errs` — the loop of `requestResponse` ends with what the answer says.
* `Inv.step` — what is on its way while one caller waits.
* `own_answers` — callers that do not wait at the same time get the answers to their requests.
-/

namespace Sloane.WifiHal

open Sloane.Lib

/-! ## Messages -/

/-- The end of an answer: `NLMSG_ERROR` with 0 or an error, or `NLMSG_DONE`. -/
inductive AnswerEnd where
  | ack
  | done
  | error (e : Int) (neg : e < 0)
  deriving DecidableEq

/-- What `ack_handler`, `finish_handler` and `error_handler` set `err` to. -/
def AnswerEnd.err : AnswerEnd → Int
  | .ack | .done => 0
  | .error e _ => e

inductive SocketMsg (ρ : Type) where
  | valid (reply : ρ)
  | last (e : AnswerEnd)
  deriving DecidableEq

structure Answer (ρ : Type) where
  replies : List ρ
  last : AnswerEnd
  deriving DecidableEq

/-! ## The socket -/

/-- `err`, and what `response_handler` was called with, in the loop of `requestResponse`. -/
inductive Caller (ρ : Type) where
  | idle
  | waiting (request : Nat) (err : Int) (handled : List ρ)
  deriving DecidableEq

/-- What a call returned, after which calls of `response_handler`. -/
structure Returned (ρ : Type) where
  request : Nat
  handled : List ρ
  err : Int
  deriving DecidableEq

/-- `cmd_sock` with its callers, the requests sent so far, the answer that the kernel is giving, and
those that it has given. -/
structure CmdSocket (ρ : Type) where
  callers : Nat → Caller ρ
  sent : Nat
  answering : List ρ
  answers : List (Answer ρ)
  queue : List (SocketMsg ρ)
  returned : List (Returned ρ)

inductive SocketAct (ρ : Type) where
  /-- `nl_send_auto_complete`, and `err = 1` -/
  | send (t : Nat)
  /-- a send or an `nl_recvmsgs` that fails -/
  | fail
  | reply (r : ρ)
  | answered (e : AnswerEnd)
  /-- `nl_recvmsgs` -/
  | receive (t : Nat)

variable {ρ : Type}

namespace CmdSocket

def start : CmdSocket ρ := ⟨fun _ => .idle, 0, [], [], [], []⟩

def setCaller (s : CmdSocket ρ) (t : Nat) (c : Caller ρ) : CmdSocket ρ :=
  { s with callers := Function.update s.callers t c }

/-- The handlers; the loop goes on while `err` is positive. -/
def handle (s : CmdSocket ρ) (t request : Nat) (err : Int) (handled : List ρ) :
    SocketMsg ρ → CmdSocket ρ
  | .valid r => s.setCaller t (.waiting request err (handled ++ [r]))
  | .last e =>
      if 0 < e.err then s.setCaller t (.waiting request e.err handled)
      else { s.setCaller t .idle with returned := s.returned ++ [⟨request, handled, e.err⟩] }

def step (s : CmdSocket ρ) : SocketAct ρ → Option (CmdSocket ρ)
  | .send t =>
      match s.callers t with
      | .idle => some { s.setCaller t (.waiting s.sent 1 []) with sent := s.sent + 1 }
      | .waiting .. => none
  | .fail => some s
  | .reply r =>
      if s.answers.length < s.sent then
        some { s with answering := s.answering ++ [r], queue := s.queue ++ [.valid r] }
      else none
  | .answered e =>
      if s.answers.length < s.sent then
        some { s with
          answering := []
          answers := s.answers ++ [⟨s.answering, e⟩]
          queue := s.queue ++ [.last e] }
      else none
  | .receive t =>
      match s.callers t, s.queue with
      | .waiting request err handled, m :: rest =>
          some ({ s with queue := rest }.handle t request err handled m)
      | _, _ => none

end CmdSocket

def cmdSocket : System (CmdSocket ρ) (SocketAct ρ) := System.ofStep .start CmdSocket.step

/-- Nobody sends while somebody waits. -/
def Alone (s : CmdSocket ρ) : SocketAct ρ → Prop
  | .send _ => ∀ t, s.callers t = .idle
  | _ => True

/-! ## What is on its way -/

/-- What a call returns for the answer to its request. -/
def Answer.returned (request : Nat) (a : Answer ρ) : Returned ρ := ⟨request, a.replies, a.last.err⟩

theorem AnswerEnd.err_nonpos (e : AnswerEnd) : e.err ≤ 0 := by
  cases e with
  | ack => exact Int.le_refl 0
  | done => exact Int.le_refl 0
  | error e neg => exact Int.le_of_lt neg

/-- The values of `err` while an answer is received. -/
def Answer.errs (a : Answer ρ) : List Int := a.replies.map (fun _ => 1) ++ [a.last.err]

/-- It is what the loop of `requestResponse` ends with. -/
theorem requestResponse_errs (a : Answer ρ) (request : Nat) :
    (requestResponse true 0 a.errs).map (·.val) = some (a.returned request).err := by
  have hloop (replies : List ρ) :
      requestResponseLoop 1 (replies.map (fun _ => (1 : Int)) ++ [a.last.err]) =
        some ⟨a.last.err, a.last.err_nonpos⟩ := by
    induction replies with
    | nil =>
      show requestResponseLoop a.last.err [] = _
      exact dif_pos a.last.err_nonpos
    | cons r replies ih => exact ih
  exact congrArg (Option.map (·.val)) (hloop a.replies)

namespace CmdSocket

/-- Nothing is on its way. -/
structure Quiet (s : CmdSocket ρ) : Prop where
  idle : ∀ t, s.callers t = .idle
  sent : s.sent = s.answers.length
  answering : s.answering = []
  queue : s.queue = []
  returned : s.returned = s.answers.mapIdx Answer.returned

/-- A caller waits: `before` are the answers to the requests before its own, and `replies` those
replies of its own answer that it has not received. -/
structure Waits (s : CmdSocket ρ) (t : Nat) (handled : List ρ) (before : List (Answer ρ))
    (replies : List ρ) : Prop where
  caller : s.callers t = .waiting before.length 1 handled
  others : ∀ t', t' ≠ t → s.callers t' = .idle
  sent : s.sent = before.length + 1
  returned : s.returned = before.mapIdx Answer.returned
  answer : (s.answers = before ∧ s.answering = handled ++ replies ∧
      s.queue = replies.map .valid) ∨
    ∃ e, s.answers = before ++ [⟨handled ++ replies, e⟩] ∧ s.answering = [] ∧
      s.queue = replies.map .valid ++ [.last e]

def Inv (s : CmdSocket ρ) : Prop :=
  s.Quiet ∨ ∃ t handled before replies, s.Waits t handled before replies

theorem Inv.start : (start : CmdSocket ρ).Inv := .inl ⟨fun _ => rfl, rfl, rfl, rfl, rfl⟩

variable {s s' : CmdSocket ρ} {t : Nat} {handled replies : List ρ} {before : List (Answer ρ)}

@[simp] theorem setCaller_self (c : Caller ρ) : (s.setCaller t c).callers t = c := by
  simp [setCaller]

theorem setCaller_of_ne (c : Caller ρ) {t' : Nat} (h : t' ≠ t) :
    (s.setCaller t c).callers t' = s.callers t' := by
  simp [setCaller, h]

/-! ### Steps -/

theorem Quiet.send (h : s.Quiet) (hstep : s.step (.send t) = some s') :
    s'.Waits t [] s.answers [] := by
  simp only [step, h.idle t, Option.some.injEq] at hstep
  obtain rfl := hstep
  refine ⟨?_, fun t' hne => ?_, congrArg (· + 1) h.sent, h.returned,
    .inl ⟨rfl, h.answering, h.queue⟩⟩
  · rw [← h.sent]
    exact setCaller_self _
  · exact (setCaller_of_ne _ hne).trans (h.idle t')

/-- The kernel has nothing to answer. -/
theorem Quiet.not_lt (h : s.Quiet) : ¬ s.answers.length < s.sent := by
  rw [h.sent]
  exact Nat.lt_irrefl _

/-- An answer that the kernel still gives is the one that is waited for. -/
theorem Waits.answering (h : s.Waits t handled before replies)
    (hlt : s.answers.length < s.sent) :
    s.answers = before ∧ s.answering = handled ++ replies ∧ s.queue = replies.map .valid := by
  rcases h.answer with hgiving | ⟨e, hgiven, -⟩
  · exact hgiving
  · rw [hgiven, h.sent, List.length_append, List.length_singleton] at hlt
    exact absurd hlt (Nat.lt_irrefl _)

theorem Waits.reply {r : ρ} (h : s.Waits t handled before replies)
    (hstep : s.step (.reply r) = some s') : s'.Waits t handled before (replies ++ [r]) := by
  simp only [step] at hstep
  split at hstep
  · rename_i hlt
    obtain rfl := Option.some.inj hstep
    obtain ⟨hanswers, hanswering, hqueue⟩ := h.answering hlt
    refine ⟨h.caller, h.others, h.sent, h.returned, .inl ⟨hanswers, ?_, ?_⟩⟩
    · show s.answering ++ [r] = _
      rw [hanswering, List.append_assoc]
    · show s.queue ++ [.valid r] = _
      rw [hqueue, List.map_append]
      rfl
  · cases hstep

theorem Waits.answered {e : AnswerEnd} (h : s.Waits t handled before replies)
    (hstep : s.step (.answered e) = some s') : s'.Waits t handled before replies := by
  simp only [step] at hstep
  split at hstep
  · rename_i hlt
    obtain rfl := Option.some.inj hstep
    obtain ⟨hanswers, hanswering, hqueue⟩ := h.answering hlt
    refine ⟨h.caller, h.others, h.sent, h.returned, .inr ⟨e, ?_, rfl, ?_⟩⟩
    · show s.answers ++ [⟨s.answering, e⟩] = _
      rw [hanswers, hanswering]
    · show s.queue ++ [.last e] = _
      rw [hqueue]
  · cases hstep

/-- Only the caller that waits receives something. -/
theorem Waits.receiver (h : s.Waits t handled before replies) {t' : Nat}
    (hstep : s.step (.receive t') = some s') : t' = t ∧ ∃ m rest, s.queue = m :: rest ∧
      s' = { s with queue := rest }.handle t before.length 1 handled m := by
  have ht : t' = t := by
    by_contra hne
    simp [step, h.others t' hne] at hstep
  subst ht
  simp only [step, h.caller] at hstep
  split at hstep
  · rename_i m rest hcaller hqueue
    cases hcaller
    exact ⟨rfl, m, rest, hqueue, (Option.some.inj hstep).symm⟩
  · cases hstep

theorem Waits.receive (h : s.Waits t handled before replies) {t' : Nat}
    (hstep : s.step (.receive t') = some s') : s'.Inv := by
  obtain ⟨rfl, m, rest, hqueue, rfl⟩ := h.receiver hstep
  cases replies with
  | nil =>
    -- the end of the answer is all that is left of it
    rcases h.answer with ⟨-, -, hempty⟩ | ⟨e, hanswers, hanswering, hlast⟩
    · rw [hqueue] at hempty
      cases hempty
    · rw [hqueue] at hlast
      obtain ⟨rfl, rfl⟩ := List.cons.inj hlast
      have hend : ¬ 0 < e.err := Int.not_lt.mpr e.err_nonpos
      simp only [handle, if_neg hend]
      refine .inl ⟨fun u => ?_, ?_, hanswering, rfl, ?_⟩
      · by_cases hu : u = t'
        · rw [hu]
          exact setCaller_self _
        · exact (setCaller_of_ne _ hu).trans (h.others u hu)
      · show s.sent = s.answers.length
        rw [h.sent, hanswers, List.length_append, List.length_singleton]
      · show s.returned ++ [⟨before.length, handled, e.err⟩] = s.answers.mapIdx _
        rw [hanswers, List.mapIdx_concat, ← h.returned, List.append_nil]
        rfl
  | cons r replies =>
    have hvalid : m = .valid r ∧ (s.answers = before ∧ s.answering = handled ++ r :: replies ∧
          rest = replies.map .valid ∨
        ∃ e, s.answers = before ++ [⟨handled ++ r :: replies, e⟩] ∧ s.answering = [] ∧
          rest = replies.map .valid ++ [.last e]) := by
      rcases h.answer with ⟨hanswers, hanswering, hgiving⟩ | ⟨e, hanswers, hanswering, hgiven⟩
      · rw [hqueue] at hgiving
        obtain ⟨hm, hrest⟩ := List.cons.inj hgiving
        exact ⟨hm, .inl ⟨hanswers, hanswering, hrest⟩⟩
      · rw [hqueue] at hgiven
        obtain ⟨hm, hrest⟩ := List.cons.inj hgiven
        exact ⟨hm, .inr ⟨e, hanswers, hanswering, hrest⟩⟩
    obtain ⟨rfl, hanswer⟩ := hvalid
    refine .inr ⟨t', handled ++ [r], before, replies, setCaller_self _, fun u hu => ?_, h.sent,
      h.returned, ?_⟩
    · exact (setCaller_of_ne _ hu).trans (h.others u hu)
    · rwa [List.append_assoc]

/-- **Every step keeps it**, as long as nobody sends while somebody waits. -/
theorem Inv.step {a : SocketAct ρ} (h : s.Inv) (halone : Alone s a) (hstep : s.step a = some s') :
    s'.Inv := by
  rcases h with hquiet | ⟨t, handled, before, replies, hwaits⟩
  · cases a with
    | send t => exact .inr ⟨t, [], s.answers, [], hquiet.send hstep⟩
    | fail =>
      obtain rfl := Option.some.inj hstep
      exact .inl hquiet
    | reply r => simp [CmdSocket.step, hquiet.not_lt] at hstep
    | answered e => simp [CmdSocket.step, hquiet.not_lt] at hstep
    | receive t => simp [CmdSocket.step, hquiet.idle t] at hstep
  · cases a with
    | send t' =>
      have hidle := halone t
      rw [hwaits.caller] at hidle
      cases hidle
    | fail =>
      obtain rfl := Option.some.inj hstep
      exact .inr ⟨t, handled, before, replies, hwaits⟩
    | reply r => exact .inr ⟨t, handled, before, replies ++ [r], hwaits.reply hstep⟩
    | answered e => exact .inr ⟨t, handled, before, replies, hwaits.answered hstep⟩
    | receive t' => exact hwaits.receive hstep

theorem reachable_inv (h : (cmdSocket.restrict Alone).Reachable s) : s.Inv := by
  refine h.invariant ?_ ?_
  · rintro s rfl
    exact .start
  · rintro s a t - hs ⟨hstep, halone⟩
    exact hs.step halone hstep

end CmdSocket

/-- **Callers that do not wait at the same time get the answers to their requests**: the calls that
have returned did so one for each answer and in their order, with exactly its replies handled and
with its result.  Once nobody waits, nothing is on its way.  And a caller waits only while there is
a message for it, or the kernel has not ended the answer. -/
theorem own_answers {s : CmdSocket ρ} (h : (cmdSocket.restrict Alone).Reachable s) :
    s.returned = (s.answers.take s.returned.length).mapIdx Answer.returned ∧
      ((∀ t, s.callers t = .idle) → s.queue = [] ∧ s.returned.length = s.sent) ∧
      ((∃ t, s.callers t ≠ .idle) → s.queue ≠ [] ∨ s.answers.length < s.sent) := by
  rcases CmdSocket.reachable_inv h with hquiet | ⟨t, handled, before, replies, hwaits⟩
  · have hlength : s.returned.length = s.answers.length := by
      rw [hquiet.returned, List.length_mapIdx]
    refine ⟨?_, fun _ => ⟨hquiet.queue, hlength.trans hquiet.sent.symm⟩, ?_⟩
    · rw [hlength, List.take_length]
      exact hquiet.returned
    · rintro ⟨t, hwaiting⟩
      exact absurd (hquiet.idle t) hwaiting
  · have hlength : s.returned.length = before.length := by
      rw [hwaits.returned, List.length_mapIdx]
    refine ⟨?_, fun hidle => ?_, fun _ => ?_⟩
    · rw [hlength]
      rcases hwaits.answer with ⟨hanswers, -⟩ | ⟨e, hanswers, -⟩
      · rw [hanswers, List.take_length]
        exact hwaits.returned
      · rw [hanswers, List.take_left]
        exact hwaits.returned
    · have hcaller := hidle t
      rw [hwaits.caller] at hcaller
      cases hcaller
    · rcases hwaits.answer with ⟨hanswers, -⟩ | ⟨e, -, -, hqueue⟩
      · right
        rw [hanswers, hwaits.sent]
        exact Nat.lt_succ_self _
      · left
        rw [hqueue]
        exact List.append_ne_nil_of_right_ne_nil _ (List.cons_ne_nil _ _)

/-- The call of one caller has returned, and another one waits. -/
theorem own_answers_twoCallers : ∃ s : CmdSocket Nat, s.returned = [⟨0, [7], 0⟩] ∧
    s.callers 1 ≠ .idle ∧ (s.queue ≠ [] ∨ s.answers.length < s.sent) := by
  have hstep {s s' : CmdSocket Nat} (h : (cmdSocket.restrict Alone).Reachable s)
      (a : SocketAct Nat) (hs : s.step a = some s') (halone : Alone s a) :
      (cmdSocket.restrict Alone).Reachable s' := h.step ⟨hs, halone⟩
  have hsent := hstep (.start rfl) (.send 0) rfl fun _ => rfl
  have hreplied := hstep hsent (.reply 7) rfl trivial
  have hanswered := hstep hreplied (.answered .ack) rfl trivial
  have hhandled := hstep hanswered (.receive 0) rfl trivial
  have hreturned := hstep hhandled (.receive 0) rfl trivial
  have hwaiting := hstep hreturned (.send 1) rfl fun t => by cases t <;> rfl
  have hcaller : Caller.waiting 1 1 [] ≠ (Caller.idle : Caller Nat) := nofun
  exact ⟨_, rfl, hcaller, (own_answers hwaiting).2.2 ⟨1, hcaller⟩⟩

/-- Callers that wait together may get each other's answers. -/
theorem not_own_answers_together : ∃ s : CmdSocket Nat, cmdSocket.Reachable s ∧
    s.answers = [⟨[], .error (-5) (by decide)⟩, ⟨[], .ack⟩] ∧ s.returned = [⟨1, [], -5⟩] := by
  have hstart : cmdSocket.Reachable (.start : CmdSocket Nat) := .start rfl
  have hfirst := hstart.step (a := .send 0) (show CmdSocket.step _ _ = some _ from rfl)
  have hboth := hfirst.step (a := .send 1) (show CmdSocket.step _ _ = some _ from rfl)
  have hrefused := hboth.step (a := .answered (.error (-5) (by decide)))
    (show CmdSocket.step _ _ = some _ from rfl)
  have hgranted := hrefused.step (a := .answered .ack) (show CmdSocket.step _ _ = some _ from rfl)
  have hreturned := hgranted.step (a := .receive 1) (show CmdSocket.step _ _ = some _ from rfl)
  exact ⟨_, hreturned, rfl, rfl⟩

end Sloane.WifiHal
