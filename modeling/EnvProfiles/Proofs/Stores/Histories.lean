import EnvProfiles.Proofs.Stores.Kinds

/-!
# Histories of a Store

What a store answers when it is asked one thing after the other. At every step
it has contents, answers as these demand and goes on with those that the request
leads to. Contents leave one answer to each request, so two stores that have the
same contents at first cannot be told apart by any row of requests, whatever
they are made of.

## Main definitions

* `Request.answers`, `Request.after`: A history of requests to one store.
* `Contents.AnswersAll`: What contents demand to be answered to a row of
  requests.

## Theorems

* `ContentStore.holds_after`: What every history keeps.
* `ContentStore.answers_eq`: Stores with the same contents answer alike.
* `answers_of_empty`: The three kinds of store answer alike from the start.
* `answers_inMemory`: A history with a case of each kind.
-/

namespace EnvProfiles

namespace Request

variable {σ : Type} [KeyStore σ]

/-- The answers of one store that is asked one thing after the other. -/
def answers (store : σ) : List Request → List Response
  | [] => []
  | request :: requests =>
    (request.answer store).1 :: answers (request.answer store).2 requests

/-- The store after all that. -/
def after (store : σ) (requests : List Request) : σ :=
  requests.foldl (fun store request => (request.answer store).2) store

end Request

/-- What contents demand to be answered to a row of requests, and the contents after it. -/
inductive Contents.AnswersAll : Contents → List Request → List Response → Contents → Prop
  | nil (c : Contents) : AnswersAll c [] [] c
  | cons {c c' c'' : Contents} {request : Request} {response : Response}
    {requests : List Request} {responses : List Response} :
    c.Answers request response c' → AnswersAll c' requests responses c'' →
    AnswersAll c (request :: requests) (response :: responses) c''

/-- Contents leave one answer to a row of requests, and one thing for it to do. -/
theorem Contents.AnswersAll.unique {c c' c'' : Contents} {requests : List Request}
    {responses responses' : List Response} (h : c.AnswersAll requests responses c')
    (h' : c.AnswersAll requests responses' c'') : responses = responses' ∧ c' = c'' := by
  induction h generalizing responses' with
  | nil c => cases h'; exact ⟨rfl, rfl⟩
  | cons hfirst _ ih =>
      cases h' with
      | cons hfirst' hrest' =>
          -- The first answer is settled, and with it the contents that the others start from.
          obtain ⟨rfl, rfl⟩ := hfirst.unique hfirst'
          obtain ⟨rfl, hlast⟩ := ih hrest'
          exact ⟨rfl, hlast⟩

namespace ContentStore

variable {σ τ : Type} [KeyStore σ] [ContentStore σ] [KeyStore τ] [ContentStore τ]
  {store : σ} {other : τ} {c : Contents}

/-- Through every history a store answers as its contents demand, and has contents after it. -/
theorem holds_after (h : Holds store c) (requests : List Request) :
    ∃ c', c.AnswersAll requests (Request.answers store requests) c' ∧
      Holds (Request.after store requests) c' := by
  induction requests generalizing store c with
  | nil => exact ⟨c, .nil c, h⟩
  | cons request requests ih =>
      obtain ⟨c', hfirst, hholds⟩ := holds_answer request h
      obtain ⟨c'', hrest, hlast⟩ := ih hholds
      exact ⟨c'', .cons hfirst hrest, hlast⟩

/-- Stores with the same contents answer alike. -/
theorem answers_eq (h : Holds store c) (hother : Holds other c) (requests : List Request) :
    Request.answers other requests = Request.answers store requests := by
  -- Both rows of answers are what the contents demand, and they demand one.
  obtain ⟨_, hanswers, _⟩ := holds_after h requests
  obtain ⟨_, hanswers', _⟩ := holds_after hother requests
  exact (hanswers'.unique hanswers).1

end ContentStore

/-- From the start, when there is no text, all kinds of store give the same answers to any row of
requests, and these are what contents demand: a store in memory, a table, and a database that can be
read and written. -/
theorem answers_of_empty (requests : List Request) (db : Database) (husable : db.Usable)
    (hempty : db.table = .empty) :
    (∀ responses, (∃ c, Contents.empty.AnswersAll requests responses c) ↔
      responses = Request.answers MemoryStore.empty requests) ∧
    Request.answers Table.empty requests = Request.answers MemoryStore.empty requests ∧
    Request.answers db requests = Request.answers MemoryStore.empty requests := by
  have hmemory : ContentStore.Holds MemoryStore.empty Contents.empty := rfl
  have htable : ContentStore.Holds Table.empty Contents.empty := Table.holds_empty
  have hdb : ContentStore.Holds db Contents.empty := ⟨husable, hempty ▸ Table.holds_empty⟩
  obtain ⟨c, hanswers, _⟩ := ContentStore.holds_after hmemory requests
  refine ⟨fun responses => ⟨?_, ?_⟩, ?_, ?_⟩
  · rintro ⟨c', hresponses⟩
    exact (hresponses.unique hanswers).1
  · rintro rfl
    exact ⟨c, hanswers⟩
  · exact ContentStore.answers_eq hmemory htable requests
  · exact ContentStore.answers_eq hmemory hdb requests

/-- A database that is kept in memory, asked for each kind of thing: a key is renamed to one that is
there, to itself, and when it is absent. -/
theorem answers_inMemory : Database.inMemory.Usable ∧ Database.inMemory.table = .empty ∧
    Request.answers Database.inMemory
      [.change (.set "b" "two"), .change (.set "a" "one"), .change (.set "a" "uno"), .keys,
        .change (.rename "a" "b"), .get "b", .change (.rename "b" "b"),
        .change (.rename "a" "c"), .change (.delete "c"), .entries]
      = [.done, .done, .done, .keys ["a", "b"], .done, .text (some "uno"), .done,
        .refused (.notFound "a"), .done, .entries [("b", "uno")]] := by
  have husable : Database.inMemory.Usable := ⟨rfl, rfl⟩
  refine ⟨husable, rfl, ?_⟩
  rw [(answers_of_empty _ Database.inMemory husable rfl).2.2]
  decide +kernel

end EnvProfiles
