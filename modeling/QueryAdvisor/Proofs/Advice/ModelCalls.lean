import QueryAdvisor.Proofs.Advice.Strategies

/-!
# One call of the model

A call needs a credential, and asks the service twice at most, for a connection and for a completion. It
always comes back, and what it brings is either a reply or an error, never both and never neither:

    no credential ──────────────────────────────▶ missing_credential
        │
     connect ────── exception ──────────────────▶ llm_error: and the exception
        │
     complete ───── exception ──────────────────▶ llm_error: and the exception
        │
        ├────────── no choice, nothing said ────▶ empty_reply
        └────────── something said ─────────────▶ the reply, as it is

An error of a call is a failure of the model, so that an analysis over such calls is made of the structure
of the query whenever there is an error.
-/

namespace QueryAdvisor

namespace Model
open CodePoint (isBlank)

/-! ### What is asked -/

/-- The credential in force: the caller's own, or that of the settings if the caller brings none. An empty
credential is none. -/
def InForce (settings : Settings) (apiKey : Option Text) (key : Text) : Prop :=
  (apiKey = some key ∨ apiKey = none ∧ settings.apiKey = some key) ∧ key ≠ []

/-- Something that is asked of the service. -/
inductive Call where
  | connect (connection : Connection)
  | complete (completion : Completion)

def Call.isCompletion : Call → Bool
  | .connect _ => false
  | .complete _ => true

/-- What an exchange asked of the service, one after the other. -/
def Exchange.calls (exchange : Exchange) : List Call :=
  (exchange.connection.map .connect).toList ++ (exchange.completion.map .complete).toList

/-! ### What comes back -/

/-- The completion was asked for and ends in an exception. -/
inductive Behaviour.Raises : Behaviour → Text → Prop where
  | fails (exception : Text) : Raises (.fails exception) exception
  | noMessage : Raises .noMessage "AttributeError"

/-- The completion says nothing. -/
inductive Behaviour.Silent : Behaviour → Prop where
  | noChoices : Silent .noChoices
  | noContent : Silent (.answers none)
  | blank {t : Text} (blank : ∀ c ∈ t, isBlank c = true) : Silent (.answers (some t))

/-- How a client asks for a connection. -/
def Client.connectCall (client : Client) (key : Text) : Call :=
  .connect { apiKey := key, timeout := client.timeout, maxRetries := 0 }

/-- How a client asks for a completion. -/
def Client.completeCall (client : Client) (messages : List Message) : Call :=
  .complete { model := client.model, messages, temperature := client.temperature }

/-- The completion is a text with something in it. -/
def Behaviour.Tells (service : Behaviour) (t : Text) : Prop :=
  service = .answers (some t) ∧ ∃ c ∈ t, isBlank c = false

/-- All that a call with some messages can come to: what it asks, and what it brings back. -/
inductive Chats (settings : Settings) (apiKey : Option Text) (client : Client) (messages : List Message) :
    Behaviour → List Call → Inference → Prop where
  | unasked {service : Behaviour} (unkeyed : ∀ key, ¬ InForce settings apiKey key) :
    Chats settings apiKey client messages service [] (.failed "missing_credential")
  | refused {key exception : Text} (keyed : InForce settings apiKey key) :
    Chats settings apiKey client messages (.refuses exception) [client.connectCall key]
      (.failed (Text.ofString "llm_error:" ++ exception))
  | raised {service : Behaviour} {key exception : Text} (keyed : InForce settings apiKey key)
    (raises : service.Raises exception) :
    Chats settings apiKey client messages service
      [client.connectCall key, client.completeCall messages]
      (.failed (Text.ofString "llm_error:" ++ exception))
  | silent {service : Behaviour} {key : Text} (keyed : InForce settings apiKey key)
    (silent : service.Silent) :
    Chats settings apiKey client messages service
      [client.connectCall key, client.completeCall messages] (.failed "empty_reply")
  | replied {service : Behaviour} {key t : Text} (keyed : InForce settings apiKey key)
    (tells : service.Tells t) :
    Chats settings apiKey client messages service
      [client.connectCall key, client.completeCall messages] (.replied t)

variable {settings : Settings} {apiKey model : Option Text} {timeout : Option Quantity}
  {service : Behaviour} {messages : List Message}

theorem nonempty?_eq_some_iff {t : Option Text} {key : Text} :
    nonempty? t = some key ↔ t = some key ∧ key ≠ [] := by
  rw [nonempty?, Option.filter_eq_some_iff]
  simp

theorem nonempty?_apiKey_iff {key : Text} :
    nonempty? (Client.ofSettings settings apiKey model timeout).apiKey = some key ↔
      InForce settings apiKey key := by
  rw [nonempty?_eq_some_iff, InForce, Client.ofSettings]
  cases apiKey <;> simp

theorem chats_chat : Chats settings apiKey (Client.ofSettings settings apiKey model timeout) messages
    service ((Client.ofSettings settings apiKey model timeout).chat service messages).calls
    ((Client.ofSettings settings apiKey model timeout).chat service messages).inference := by
  rw [Client.chat]
  cases hkey : nonempty? (Client.ofSettings settings apiKey model timeout).apiKey with
  | none =>
    refine .unasked fun key hforce => ?_
    rw [nonempty?_apiKey_iff.mpr hforce] at hkey
    cases hkey
  | some key =>
    have hforce := nonempty?_apiKey_iff.mp hkey
    cases service with
    | refuses exception => exact .refused hforce
    | fails exception => exact .raised hforce (.fails exception)
    | noChoices => exact .silent hforce .noChoices
    | noMessage => exact .raised hforce .noMessage
    | answers content =>
      cases content with
      | none => exact .silent hforce .noContent
      | some t =>
        by_cases hblank : Text.allBlank t = true
        · simp only [Behaviour.inference, if_pos hblank]
          exact .silent hforce (.blank (List.all_eq_true.mp hblank))
        · simp only [Behaviour.inference, if_neg hblank]
          refine .replied hforce ⟨rfl, ?_⟩
          simpa [Text.allBlank] using hblank

/-! ### What can be relied on -/

/-- What holds of every exchange, whatever the service does. -/
structure Reliable (settings : Settings) (apiKey : Option Text) (service : Behaviour)
    (messages : List Message) (exchange : Exchange) : Prop where
  /-- There is a reply or an error, and never both. -/
  either : exchange.inference.content ≠ none ↔ exchange.inference.error = none
  ok_iff : exchange.inference.ok = true ↔ exchange.inference.content ≠ none
  /-- The reply is what the service said, if it was asked and said something. -/
  content_iff : ∀ t, exchange.inference.content = some t ↔
    (∃ key, InForce settings apiKey key) ∧ service.Tells t
  /-- A connection is asked for with the credential in force, and never without one. -/
  connect_iff : ∀ key, (∃ connection, .connect connection ∈ exchange.calls ∧ connection.apiKey = key) ↔
    InForce settings apiKey key
  complete_once : exchange.calls.countP Call.isCompletion ≤ 1
  complete_unchanged : ∀ completion, .complete completion ∈ exchange.calls →
    completion.messages = messages

/-- There is one credential in force at most. -/
theorem InForce.unique {key key' : Text} (h : InForce settings apiKey key)
    (h' : InForce settings apiKey key') : key = key' := by
  obtain ⟨hkey | ⟨hnone, hkey⟩, -⟩ := h
  · obtain ⟨hkey' | ⟨hnone, -⟩, -⟩ := h'
    · exact Option.some.inj (hkey.symm.trans hkey')
    · simp [hkey] at hnone
  · obtain ⟨hkey' | ⟨-, hkey'⟩, -⟩ := h'
    · simp [hkey'] at hnone
    · exact Option.some.inj (hkey.symm.trans hkey')

theorem Behaviour.Raises.not_tells {exception : Text} (h : service.Raises exception) (t : Text) :
    ¬ service.Tells t := by
  rintro ⟨rfl, -⟩
  cases h

theorem Behaviour.Silent.not_tells (h : service.Silent) (t : Text) : ¬ service.Tells t := by
  rintro ⟨rfl, c, hc, hsaid⟩
  cases h with
  | blank hblank =>
    rw [hblank c hc] at hsaid
    cases hsaid

variable {client : Client} {calls : List Call} {inference : Inference}

/-- A call brings the reply of a service that was asked and said something, or else an error. -/
theorem Chats.brings (h : Chats settings apiKey client messages service calls inference) :
    (∃ t, inference = .replied t ∧ (∃ key, InForce settings apiKey key) ∧ service.Tells t) ∨
      ∃ error, inference = .failed error ∧
        ∀ t, ¬ ((∃ key, InForce settings apiKey key) ∧ service.Tells t) := by
  cases h with
  | unasked unkeyed => exact Or.inr ⟨_, rfl, fun t ⟨⟨key, hforce⟩, _⟩ => unkeyed key hforce⟩
  | refused keyed => exact Or.inr ⟨_, rfl, fun t ⟨_, hanswers, _⟩ => by cases hanswers⟩
  | raised keyed raises => exact Or.inr ⟨_, rfl, fun t ⟨_, htells⟩ => raises.not_tells t htells⟩
  | silent keyed silent => exact Or.inr ⟨_, rfl, fun t ⟨_, htells⟩ => silent.not_tells t htells⟩
  | replied keyed tells => exact Or.inl ⟨_, rfl, ⟨_, keyed⟩, tells⟩

/-- A call asks for nothing without a credential, and else for a connection with it and for one completion
at most. -/
theorem Chats.asks (h : Chats settings apiKey client messages service calls inference) :
    ((∀ key, ¬ InForce settings apiKey key) ∧ calls = []) ∨
      ∃ key, InForce settings apiKey key ∧ (calls = [client.connectCall key] ∨
        calls = [client.connectCall key, client.completeCall messages]) := by
  cases h with
  | unasked unkeyed => exact Or.inl ⟨unkeyed, rfl⟩
  | refused keyed => exact Or.inr ⟨_, keyed, Or.inl rfl⟩
  | raised keyed _ => exact Or.inr ⟨_, keyed, Or.inr rfl⟩
  | silent keyed _ => exact Or.inr ⟨_, keyed, Or.inr rfl⟩
  | replied keyed _ => exact Or.inr ⟨_, keyed, Or.inr rfl⟩

theorem Chats.connect_iff (h : Chats settings apiKey client messages service calls inference)
    (key : Text) : (∃ connection, .connect connection ∈ calls ∧ connection.apiKey = key) ↔
      InForce settings apiKey key := by
  rcases h.asks with ⟨hunkeyed, rfl⟩ | ⟨key', hforce, hcalls⟩
  · simp [hunkeyed key]
  · have hconnect : (∃ connection, .connect connection ∈ calls ∧ connection.apiKey = key) ↔
        key' = key := by
      rcases hcalls with rfl | rfl <;> simp [Client.connectCall, Client.completeCall]
    rw [hconnect]
    constructor
    · rintro rfl
      exact hforce
    · exact hforce.unique

theorem Chats.reliable {exchange : Exchange}
    (h : Chats settings apiKey client messages service exchange.calls exchange.inference) :
    Reliable settings apiKey service messages exchange where
  either := by
    rcases h.brings with ⟨t, hreply, -⟩ | ⟨error, hfailed, -⟩
    · simp [hreply, Inference.replied]
    · simp [hfailed, Inference.failed]
  ok_iff := by
    rcases h.brings with ⟨t, hreply, -, -, c, hc, -⟩ | ⟨error, hfailed, -⟩
    · have hne : t ≠ [] := List.ne_nil_of_mem hc
      simp [hreply, Inference.replied, Inference.ok, hne]
    · simp [hfailed, Inference.failed, Inference.ok]
  content_iff := by
    intro t
    rcases h.brings with ⟨t', hreply, hkeyed, htells⟩ | ⟨error, hfailed, hnot⟩
    · rw [hreply]
      constructor
      · intro hsame
        cases hsame
        exact ⟨hkeyed, htells⟩
      · rintro ⟨-, hanswers, -⟩
        rw [htells.1] at hanswers
        cases hanswers
        rfl
    · simp [hfailed, Inference.failed, hnot t]
  connect_iff := h.connect_iff
  complete_once := by
    rcases h.asks with ⟨-, hcalls⟩ | ⟨key, -, hcalls | hcalls⟩ <;>
      simp [hcalls, Client.connectCall, Client.completeCall, Call.isCompletion]
  complete_unchanged := by
    intro completion hcompletion
    rcases h.asks with ⟨-, hcalls⟩ | ⟨key, -, hcalls | hcalls⟩ <;>
      simp [hcalls, Client.connectCall, Client.completeCall] at hcompletion
    rw [hcompletion]

end Model

namespace Advice

theorem result_of_error {inference : Inference} (h : inference.error ≠ none) (query : Text) :
    (generate (.returns inference) query).result = .ok (.ofStructure query) := by
  obtain ⟨content, error⟩ := inference
  cases error with
  | none => exact absurd rfl h
  | some error => rw [generate_of_fails (.erred content error)]

end Advice

namespace Model

/-- Whatever the caller and the settings give and whatever the service does, a call comes back with a reply
or an error, as `Reliable` says. And an analysis over such calls is made of the structure of the query
whenever the call brings an error. -/
theorem reliable_chat (settings : Settings) (apiKey model : Option Text) (timeout : Option Quantity)
    (service : Behaviour) :
    (∀ messages, Reliable settings apiKey service messages
      ((Client.ofSettings settings apiKey model timeout).chat service messages)) ∧
    ∀ query : Text, ((Client.ofSettings settings apiKey model timeout).chat service
        (Advice.question query)).inference.error ≠ none →
      (Advice.generate (.returns ((Client.ofSettings settings apiKey model timeout).chat service
        (Advice.question query)).inference) query).result = .ok (.ofStructure query) := by
  refine ⟨fun messages => chats_chat.reliable, ?_⟩
  intro query herror
  exact Advice.result_of_error herror query

/-- So it is for a service that does not answer in time, with the credential of the settings. -/
theorem reliable_chat_late : ((Client.ofSettings { apiKey := some "k" } none none none).chat
      (.fails "TimeoutError") (Advice.question "SELECT id FROM t")).inference.error =
        some (Text.ofString "llm_error:TimeoutError") ∧
    (Advice.generate (.returns ((Client.ofSettings { apiKey := some "k" } none none none).chat
      (.fails "TimeoutError") (Advice.question "SELECT id FROM t")).inference)
        "SELECT id FROM t").result = .ok (.ofStructure "SELECT id FROM t") := by
  refine ⟨rfl, ?_⟩
  exact (reliable_chat { apiKey := some "k" } none none none (.fails "TimeoutError")).2
    "SELECT id FROM t" (Option.some_ne_none _)

end Model

end QueryAdvisor
