import Mathlib.Data.List.Chain
import WorkflowQueue.Http.Course

namespace WorkflowQueue.Http

/-!
# What redirects keep

A redirect makes one message out of another, so what a message has along the
course of an exchange follows from what one redirect keeps. The authorization is
kept from message to message as long as they go to one place, and is gone for
good after a message to another place. No course follows more redirects than the
limit, and one that begins with a response that leads nowhere ends there.
-/

namespace Message

/-! ## One redirect -/

/--
What a message keeps of the authorization of the one before it: all of it at the
same host and port, and nothing at another.
-/
def KeepsAuthorization
    (before after : Message) :
    Prop :=
  after.authorization =
    if after.address.place = before.address.place then before.authorization
    else []

theorem redirected_keepsAuthorization
    (message : Message)
    (status : Nat)
    (address : Url) :
    message.KeepsAuthorization (message.redirected status address) :=
  rfl

section Step

variable
  {message next : Message}
  {followed : Nat}
  {hop : Hop}

theorem direction_of_not_redirects
    (stays : hop.redirects = false) :
    message.direction followed hop = .here := by
  simp [direction, stays]

/--
A redirect that is followed is within the limit, and leads to some address.
-/
theorem exists_of_direction_onward
    (leads : message.direction followed hop = .onward next) :
    followed < redirectLimit ∧
      ∃ address, next = message.redirected hop.status address := by
  unfold direction at leads
  dsimp only at leads
  split at leads
  · cases leads
  split at leads
  · cases leads
  · split at leads <;> cases leads
  · cases leads
  · next address _ =>
      split at leads
      · cases leads
      split at leads
      · next within =>
          cases leads
          exact ⟨within, address, rfl⟩
      · cases leads

end Step

/-! ## Whole courses -/

/-- A course that ends with the first of its responses. -/
theorem course_of_not_redirects
    {message : Message}
    {response : Response}
    (stays : response.redirects = false) :
    message.course response =
      { onward := [], ending := .response response.toHop } := by
  simp only [course, courseFrom, direction_of_not_redirects stays]

/-- A course ends at a response, or goes on by a redirect within the limit. -/
theorem onward_courseFrom_cons
    (followed : Nat)
    (message : Message)
    (hop : Hop)
    (rest : List Hop) :
    (message.courseFrom followed (hop :: rest)).onward = [] ∨
      followed < redirectLimit ∧
        ∃ address,
          let next := message.redirected hop.status address
          (message.courseFrom followed (hop :: rest)).onward =
            next :: (next.courseFrom (followed + 1) rest).onward := by
  cases leads : message.direction followed hop with
  | here => simp [courseFrom, leads]
  | blocked failure => simp [courseFrom, leads]
  | onward next =>
      obtain ⟨within, address, rfl⟩ := exists_of_direction_onward leads
      refine Or.inr ⟨within, address, ?_⟩
      simp [courseFrom, leads, Course.preceded]

/-- Every message of a course keeps the authorization as one redirect does. -/
theorem isChain_courseFrom
    (followed : Nat)
    (message : Message)
    (hops : List Hop) :
    List.IsChain KeepsAuthorization
      (message :: (message.courseFrom followed hops).onward) := by
  induction hops generalizing followed message with
  | nil => exact .singleton message
  | cons hop rest inductionHypothesis =>
      rcases message.onward_courseFrom_cons followed hop rest with
        ends | ⟨-, address, follows⟩
      · rw [ends]
        exact .singleton message
      · rw [follows]
        refine .cons_cons ?_ (inductionHypothesis _ _)
        exact message.redirected_keepsAuthorization hop.status address

theorem isChain_trail
    (message : Message)
    (response : Response) :
    List.IsChain KeepsAuthorization (message.trail response) :=
  isChain_courseFrom 0 message _

/-- No course goes beyond the limit. -/
theorem length_courseFrom_le
    {followed : Nat}
    (within : followed ≤ redirectLimit)
    (message : Message)
    (hops : List Hop) :
    followed + (message.courseFrom followed hops).onward.length ≤
      redirectLimit := by
  induction hops generalizing followed message with
  | nil => exact within
  | cons hop rest inductionHypothesis =>
      rcases message.onward_courseFrom_cons followed hop rest with
        ends | ⟨below, address, follows⟩
      · rw [ends]
        exact within
      · rw [follows, List.length_cons, ← Nat.succ_add_eq_add_succ]
        exact inductionHypothesis below _

theorem length_onward_le
    (message : Message)
    (response : Response) :
    (message.course response).onward.length ≤ redirectLimit := by
  have within :=
    length_courseFrom_le (Nat.zero_le redirectLimit) message
      (response.toHop :: response.onward)
  rwa [Nat.zero_add] at within

/-- Where the first message has no authorization, no other has one. -/
theorem unauthorized_of_isChain
    {message : Message}
    {later : List Message}
    (chain : List.IsChain KeepsAuthorization (message :: later))
    (unauthorized : message.authorization = []) :
    ∀ other ∈ message :: later, other.authorization = [] := by
  induction later generalizing message with
  | nil => exact List.forall_mem_singleton.mpr unauthorized
  | cons next rest inductionHypothesis =>
      obtain ⟨keeps, chain⟩ := List.isChain_cons_cons.mp chain
      have nextUnauthorized : next.authorization = [] := by
        rw [keeps, unauthorized, ite_self]
      exact List.forall_mem_cons.mpr
        ⟨unauthorized, inductionHypothesis chain nextUnauthorized⟩

end Message

/-- A complete success with a text, where following ends. -/
def Hop.ofText
    (text : String) :
    Hop where
  status := 200
  headers := []
  body := Text.utf8 text.toList
  earlyEnd := none

end WorkflowQueue.Http
