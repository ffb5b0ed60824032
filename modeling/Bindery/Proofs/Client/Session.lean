import Mathlib.Data.List.Chain
import Mathlib.Data.List.Forall2
import Bindery.Client.Session
import Bindery.Proofs.Client.Response

/-!
# What calls do to their target

All calls of a session decode into one target. A call writes it only if there is a response without errors that has
data, and what a call sends does not depend on the calls before it.

## Main results

- `HttpResponse.interpret_eq_receive`, `ClientSetup.post_client` — a call of a session is a call of a client
- `ClientSetup.complies_post` — what one call does
- `ClientSetup.postAll_complies` — what each call of a session does
-/

namespace Bindery

open Json

theorem isVoid_eq_false_iff {data : List Char} :
    isVoid data = false ↔ data ≠ [] ∧ data ≠ "null".toList := by
  simp [isVoid]

namespace HttpResponse

variable (r : HttpResponse) (leftover : Leftover)

theorem receive_of_error {e : PostError} (h : r.accept = .error e) (out : Option Value) :
    r.receive leftover out = (.error e, out) := by
  unfold receive
  rw [h]

theorem receive_none {e : Envelope} (h : r.accept = .ok e) : r.receive leftover none = (.ok (), none) := by
  unfold receive
  rw [h]

theorem receive_of_isVoid {e : Envelope} (h : r.accept = .ok e) (hvoid : isVoid e.data = true)
    (target : Value) : r.receive leftover (some target) = (.ok (), some target) := by
  unfold receive
  rw [h]
  exact if_pos hvoid

theorem receive_of_data {e : Envelope} (h : r.accept = .ok e) (hvoid : isVoid e.data = false) {target v : Value}
    (hdata : decodeData e.data target = .ok v) :
    r.receive leftover (some target) = (.ok (), some (.pointer v)) := by
  unfold receive
  rw [h]
  dsimp only
  rw [hvoid, if_neg Bool.false_ne_true, hdata]

theorem receive_of_misfit {e : Envelope} (h : r.accept = .ok e) (hvoid : isVoid e.data = false) {target : Value}
    {f : DataError} (hdata : decodeData e.data target = .error f) :
    r.receive leftover (some target) = (.error (.data f), some (leftover e.data target)) := by
  unfold receive
  rw [h]
  dsimp only
  rw [hvoid, if_neg Bool.false_ne_true, hdata]

/-- A response is taken in as it is interpreted. -/
theorem interpret_eq_receive (out : Option Value) :
    r.interpret out = (r.receive leftover out).1.map fun _ => (r.receive leftover out).2 := by
  unfold interpret
  cases haccept : r.accept with
  | error e => rw [r.receive_of_error leftover haccept]; rfl
  | ok e =>
    cases out with
    | none => rw [r.receive_none leftover haccept]; rfl
    | some target =>
      change (if isVoid e.data = true then _ else _) = _
      by_cases hvoid : isVoid e.data = true
      · rw [if_pos hvoid, r.receive_of_isVoid leftover haccept hvoid]
        rfl
      · rw [if_neg hvoid]
        have hfull : isVoid e.data = false := eq_false_of_ne_true hvoid
        cases hdata : decodeData e.data target with
        | error f => rw [r.receive_of_misfit leftover haccept hfull hdata]; rfl
        | ok v => rw [r.receive_of_data leftover haccept hfull hdata]; rfl

/-- Only data are written into a target. -/
theorem accept_of_receive_ne {out : Option Value} (h : (r.receive leftover out).2 ≠ out) :
    ∃ e, r.accept = .ok e ∧ isVoid e.data = false := by
  cases haccept : r.accept with
  | error e => exact absurd (by rw [r.receive_of_error leftover haccept]) h
  | ok e =>
    refine ⟨e, rfl, eq_false_of_ne_true fun hvoid => h ?_⟩
    cases out with
    | none => rw [r.receive_none leftover haccept]
    | some target => rw [r.receive_of_isVoid leftover haccept hvoid]

theorem receive_eq_response_iff (out : Option Value) {x : ErrorResponse} :
    (r.receive leftover out).1 = .error (.response x) ↔ r.accept = .error (.response x) := by
  cases haccept : r.accept with
  | error e => rw [r.receive_of_error leftover haccept, Except.error.injEq, Except.error.injEq]
  | ok e =>
    -- what is wrong with data is another kind of error
    refine iff_of_false (fun h => ?_) (by simp)
    cases out with
    | none => rw [r.receive_none leftover haccept] at h; cases h
    | some target =>
      by_cases hvoid : isVoid e.data = true
      · rw [r.receive_of_isVoid leftover haccept hvoid] at h
        cases h
      · have hfull : isVoid e.data = false := eq_false_of_ne_true hvoid
        cases hdata : decodeData e.data target with
        | error f => rw [r.receive_of_misfit leftover haccept hfull hdata] at h; cases h
        | ok v => rw [r.receive_of_data leftover haccept hfull hdata] at h; cases h

end HttpResponse

/-! ### One call -/

variable {σ : Type}

/-- The client of a setup, where the network says what the senders do. -/
def ClientSetup.client (c : ClientSetup σ) (network : σ → Transport) : Client :=
  ⟨c.endpoint, c.header, network c.sender⟩

namespace Turn

variable {c : ClientSetup σ} {t : Turn σ} {r : HttpResponse}

/-- The request of a call, from the setup of the client and the options of this call. -/
def request (t : Turn σ) (c : ClientSetup σ) : Except RequestError HttpRequest :=
  t.call.request (c.apply t.options).endpoint (c.apply t.options).header

/-- The request of a call is sent, and a response comes back. -/
def Gets (t : Turn σ) (c : ClientSetup σ) (r : HttpResponse) : Prop :=
  ∃ request, t.request c = .ok request ∧ t.network (c.apply t.options).sender request = .ok r

theorem Gets.unique {r' : HttpResponse} (h : t.Gets c r) (h' : t.Gets c r') : r = r' := by
  obtain ⟨request, hrequest, hresponse⟩ := h
  obtain ⟨request', hrequest', hresponse'⟩ := h'
  obtain rfl := Except.ok.inj (hrequest.symm.trans hrequest')
  exact Except.ok.inj (hresponse.symm.trans hresponse')

/-- A response comes back whose body can be read to its end. -/
def Reads (t : Turn σ) (c : ClientSetup σ) (r : HttpResponse) : Prop :=
  t.Gets c r ∧ r.broken = none

/-- The response is a success without errors, and has data. -/
def Brings (t : Turn σ) (c : ClientSetup σ) (e : Envelope) : Prop :=
  ∃ r, t.Reads c r ∧ r.IsSuccess ∧ r.Carries e ∧ e.errors = [] ∧ e.data ≠ [] ∧ e.data ≠ "null".toList

theorem brings_iff {e : Envelope} :
    t.Brings c e ↔ ∃ r, t.Gets c r ∧ r.accept = .ok e ∧ isVoid e.data = false := by
  simp only [Brings, Reads, HttpResponse.accept_eq_ok_iff, isVoid_eq_false_iff, and_assoc]

end Turn

namespace Posting

/-- What a call does, if the client has this setup. -/
structure Complies (c : ClientSetup σ) (t : Turn σ) (p : Posting) : Prop where
  /-- The call is one of the client that has the setup with the options of this call. -/
  call : ((c.apply t.options).client t.network).post t.call p.before = (p.request, p.result.map fun _ => p.after)
  /-- The request is made from the setup of the client, the options of this call and the operation. -/
  request : p.request = (t.request c).toOption
  /-- The target is another one only if the response brings data. -/
  changed : p.after ≠ p.before → ∃ e, t.Brings c e
  /-- Data that fit the target are written. -/
  written : ∀ e target v, t.Brings c e → p.before = some target → decodeData e.data target = .ok v →
    p.result = .ok () ∧ p.after = some (.pointer v)
  /-- Data that do not fit are an error. -/
  misfit : ∀ e target f, t.Brings c e → p.before = some target → decodeData e.data target = .error f →
    p.result = .error (.data f)
  /-- A failure or errors are reported if the body of the response was read, and only then. -/
  reported : ∀ x, p.result = .error (.response x) ↔ ∃ r, t.Reads c r ∧ r.Reports x

end Posting

namespace ClientSetup

variable (c : ClientSetup σ) (leftover : Leftover) (out : Option Value) (t : Turn σ)

/-- Without a response there is an error of another kind, and the target is left as it is. -/
theorem post_of_not_gets (h : ∀ r, ¬t.Gets c r) :
    ∃ e, (∀ x, e ≠ .response x) ∧
      c.post leftover out t = ⟨(t.request c).toOption, .error e, out, out⟩ := by
  unfold post
  cases hrequest : t.request c with
  | error e =>
    rw [Turn.request] at hrequest
    exact ⟨.request e, by simp, by simp only [hrequest]; rfl⟩
  | ok request =>
    cases hresponse : t.network (c.apply t.options).sender request with
    | error reason =>
      rw [Turn.request] at hrequest
      exact ⟨.transport request.url.redacted reason, by simp, by simp only [hrequest, hresponse]; rfl⟩
    | ok r => exact absurd ⟨request, hrequest, hresponse⟩ (h r)

theorem post_of_gets {r : HttpResponse} (h : t.Gets c r) :
    c.post leftover out t =
      ⟨(t.request c).toOption, (r.receive leftover out).1, out, (r.receive leftover out).2⟩ := by
  obtain ⟨request, hrequest, hresponse⟩ := h
  have htold : (t.request c).toOption = some request := by rw [hrequest]; rfl
  rw [htold]
  rw [Turn.request] at hrequest
  unfold post
  simp only [hrequest, hresponse]

@[simp] theorem before_post : (c.post leftover out t).before = out := by
  by_cases h : ∃ r, t.Gets c r
  · obtain ⟨r, hr⟩ := h
    rw [c.post_of_gets leftover out t hr]
  · obtain ⟨e, -, hpost⟩ := c.post_of_not_gets leftover out t (not_exists.mp h)
    rw [hpost]

theorem post_client :
    ((c.apply t.options).client t.network).post t.call out =
      ((c.post leftover out t).request,
        (c.post leftover out t).result.map fun _ => (c.post leftover out t).after) := by
  unfold Client.post post client
  dsimp only
  cases t.call.request (c.apply t.options).endpoint (c.apply t.options).header with
  | error e => rfl
  | ok request =>
    dsimp only
    cases t.network (c.apply t.options).sender request with
    | error reason => rfl
    | ok r => exact congrArg (Prod.mk _) (r.interpret_eq_receive leftover out)

/-- What one call does. -/
theorem complies_post : (c.post leftover out t).Complies c t := by
  have hcall := c.post_client leftover out t
  by_cases h : ∃ r, t.Gets c r
  · obtain ⟨r, hr⟩ := h
    rw [c.post_of_gets leftover out t hr] at hcall ⊢
    -- the response that brings data is the one that came back
    have haccept : ∀ {e}, t.Brings c e → r.accept = .ok e ∧ isVoid e.data = false := by
      intro e he
      obtain ⟨r', hr', haccept⟩ := Turn.brings_iff.mp he
      rw [hr.unique hr']
      exact haccept
    constructor
    case call => exact hcall
    case request => rfl
    case changed =>
      intro hne
      obtain ⟨e, he⟩ := r.accept_of_receive_ne leftover hne
      exact ⟨e, Turn.brings_iff.mpr ⟨r, hr, he⟩⟩
    case written =>
      intro e target v he hout hdata
      obtain rfl : out = some target := hout
      rw [r.receive_of_data leftover (haccept he).1 (haccept he).2 hdata]
      exact ⟨rfl, rfl⟩
    case misfit =>
      intro e target f he hout hdata
      obtain rfl : out = some target := hout
      rw [r.receive_of_misfit leftover (haccept he).1 (haccept he).2 hdata]
    case reported =>
      intro x
      rw [r.receive_eq_response_iff leftover, HttpResponse.accept_eq_response_iff]
      constructor
      · rintro ⟨hbroken, hreports⟩
        exact ⟨r, ⟨hr, hbroken⟩, hreports⟩
      · rintro ⟨r', ⟨hr', hbroken⟩, hreports⟩
        obtain rfl := hr.unique hr'
        exact ⟨hbroken, hreports⟩
  · -- nothing comes back, so nothing is asked of the data
    rw [not_exists] at h
    obtain ⟨error, hkind, hpost⟩ := c.post_of_not_gets leftover out t h
    have hbrings : ∀ {e}, ¬t.Brings c e := fun he => by
      obtain ⟨r, hr, -⟩ := Turn.brings_iff.mp he
      exact h r hr
    rw [hpost] at hcall ⊢
    constructor
    case call => exact hcall
    case request => rfl
    case changed => exact fun hne => absurd rfl hne
    case written => exact fun _ _ _ he => absurd he hbrings
    case misfit => exact fun _ _ _ he => absurd he hbrings
    case reported =>
      intro x
      refine iff_of_false (fun hx => hkind x (Except.error.inj hx)) ?_
      rintro ⟨r, ⟨hr, -⟩, -⟩
      exact h r hr

/-! ### All calls -/

theorem forall₂_complies_postAll (turns : List (Turn σ)) :
    List.Forall₂ (Posting.Complies c) turns (c.postAll leftover out turns) := by
  induction turns generalizing out with
  | nil => exact .nil
  | cons t rest ih => exact .cons (c.complies_post leftover out t) (ih _)

theorem before_head_postAll (turns : List (Turn σ)) :
    ∀ p ∈ (c.postAll leftover out turns).head?, p.before = out := by
  cases turns with
  | nil => simp [postAll]
  | cons t rest => simp [postAll]

theorem isChain_postAll (turns : List (Turn σ)) :
    (c.postAll leftover out turns).IsChain fun p q => q.before = p.after := by
  induction turns generalizing out with
  | nil => exact .nil
  | cons t rest ih =>
    rw [postAll, List.isChain_cons]
    exact ⟨c.before_head_postAll leftover _ rest, ih _⟩

/-- Whatever calls are made with one client and one target, whatever options they have and whatever comes back, each
call does what it has to do with the setup that the client was made with and the target that the call before it left. -/
theorem postAll_complies (usual : σ) (endpoint : Octets) (construction : List (ClientOption σ)) (leftover : Leftover)
    (out : Option Value) (turns : List (Turn σ)) :
    List.Forall₂ (Posting.Complies (new usual endpoint construction)) turns
        ((new usual endpoint construction).postAll leftover out turns) ∧
      (∀ p ∈ ((new usual endpoint construction).postAll leftover out turns).head?, p.before = out) ∧
      ((new usual endpoint construction).postAll leftover out turns).IsChain fun p q => q.before = p.after :=
  ⟨forall₂_complies_postAll _ leftover out turns, before_head_postAll _ leftover out turns,
    isChain_postAll _ leftover out turns⟩

end ClientSetup

end Bindery
