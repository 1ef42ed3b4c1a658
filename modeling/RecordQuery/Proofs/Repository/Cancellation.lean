import RecordQuery.Proofs.Feed.Cancellation
import RecordQuery.Proofs.Repository.Suspending

/-!
# Cancelled calls

What the suspending calls make of a cancellation that is asked for while a row is on its way
(`Suspending.askedDuring_outcomes`). `Suspending.count` looks at every row itself and pulls none
after that row. The lists have unwanted rows passed over for them, and so they pull on up to the
first row that is wanted. Where none is left, a list in the order of its source is answered as if
nobody had asked for cancellation.
-/

namespace RecordQuery.Repository

variable {α ε β : Type}

/-- A repository with another feed of rows. -/
def withFeed (r : Repository α ε) (feed : Feed α ε) : Repository α ε :=
  { r with source := { rows := fun _ => feed } }

namespace Suspending

section

variable {r : Repository α ε} {paths : List String} {f : Feed α ε → Drained β ε}

theorem result_answer :
    (answer r paths false f).result = (f (r.source.rows paths)).result.mapError .ofInterruption :=
  rfl

theorem pulled_answer : (answer r paths false f).pulled = (f (r.source.rows paths)).pulled := rfl

end

/-- How a list comes out when cancellation is asked for while `a` is on its way: it is cancelled if
it has to be sorted or if a row from `a` on is wanted, and has pulled the rows up to that one. -/
def ListsUpToWanted (wanted : α → Bool) (sorts : Bool) (page : Page.Request) (before : List α)
    (a : α) (after : List α) (reply : Reply α ε (Page α)) : Prop :=
  reply.result = (if sorts || (a :: after).any wanted then .error .cancelled
    else .ok (RecordQuery.paginate ((before ++ a :: after).filter wanted) page)) ∧
  reply.pulled = Feed.pulledBy wanted before.length (a :: after)

section

variable {r : Repository α ε} {paths : List String} {before after : List α} {a : α}
  (hfeed : r.source.rows paths = .askedDuring before a after)
include hfeed

theorem listsUpToWanted_paginate (wanted : α → Bool) (page : Page.Request) :
    ListsUpToWanted wanted false page before a after
      (answer r paths false fun feed => feed.paginate wanted page false) := by
  rw [ListsUpToWanted, result_answer, pulled_answer, hfeed, Feed.paginate_askedDuring]
  refine ⟨?_, rfl⟩
  unfold Feed.noticed
  cases (a :: after).any wanted <;> rfl

theorem listsUpToWanted_pageOfSorted (sort : List α → List α) (wanted : α → Bool)
    (page : Page.Request) : ListsUpToWanted wanted true page before a after
      (answer r paths false (pageOfSorted sort wanted page)) := by
  rw [ListsUpToWanted, result_answer, pulled_answer, hfeed, pageOfSorted,
    Feed.collect_askedDuring]
  exact ⟨rfl, rfl⟩

theorem listsUpToWanted_list (p : Option (α → Bool)) (order : Option (α → α → Ordering))
    (page : Page.Request) : ListsUpToWanted (accepts p) order.isSome page before a after
      (list r p order paths page false) := by
  cases order with
  | none => exact listsUpToWanted_paginate hfeed _ page
  | some o => exact listsUpToWanted_pageOfSorted hfeed _ _ page

theorem listsUpToWanted_listByQuery {q : Query} {plan : Plan α} (p : Option (α → Bool))
    (page : Page.Request) (hplan : (r.plan q).1 = .ok plan) :
    ListsUpToWanted (fun b => plan.predicate.accepts b && accepts p b) (!plan.order.isIdentity) page
      before a after (listByQuery r q p paths page false) := by
  rcases hreply : r.plan q with ⟨x, r'⟩
  obtain rfl : x = .ok plan := by rw [← hplan, hreply]
  rw [← source_of_plan hreply] at hfeed
  rw [listByQuery_planned hreply]
  cases plan.order.isIdentity with
  | true => exact listsUpToWanted_paginate hfeed _ page
  | false => exact listsUpToWanted_pageOfSorted hfeed _ _ page

theorem count_askedDuring (p : Option (α → Bool)) :
    (count r p paths false).result = .error .cancelled ∧
      (count r p paths false).pulled = before.length + 1 := by
  rw [count, result_answer, pulled_answer, hfeed]
  dsimp only
  rw [Feed.drain_askedDuring, Feed.noticed_of_wanted rfl]
  exact ⟨rfl, rfl⟩

end

/-- A cancellation that is asked for while a row is on its way is noticed by `count` before the next
row is pulled. The lists notice it behind the first row from that one on that is wanted; where none
is, they are cancelled only if they have to be sorted. -/
theorem askedDuring_outcomes (r : Repository α ε) (q : Query) (plan : Plan α)
    (p : Option (α → Bool)) (order : Option (α → α → Ordering)) (paths : List String) (page : Page.Request)
    (before : List α) (a : α) (after : List α) (hplan : (r.plan q).1 = .ok plan) :
    let r := r.withFeed (.askedDuring before a after)
    ((count r p paths false).result = .error .cancelled ∧
      (count r p paths false).pulled = before.length + 1) ∧
    ListsUpToWanted (accepts p) order.isSome page before a after (list r p order paths page false) ∧
    ListsUpToWanted (fun b => plan.predicate.accepts b && accepts p b) (!plan.order.isIdentity) page
      before a after (listByQuery r q p paths page false) :=
  ⟨count_askedDuring rfl p, listsUpToWanted_list rfl p order page,
    listsUpToWanted_listByQuery rfl p page hplan⟩

/-- Three numbers, with cancellation asked for while the second is on its way. -/
def askedDuringSecond : Repository Nat Empty :=
  withFeed ⟨.ofList [], .ofSettings (.empty "number") {} {}⟩ (.askedDuring [1] 2 [3])

theorem askedDuringSecond_outcomes :
    (askedDuringSecond.plan .neutral).1 = .ok ⟨.always, .identity⟩ ∧
    (count askedDuringSecond (some (· == 3)) [] false).result = .error .cancelled ∧
    ListsUpToWanted (· == 3) false .first [1] 2 [3]
      (list askedDuringSecond (some (· == 3)) none [] .first false) :=
  have h := askedDuring_outcomes askedDuringSecond .neutral ⟨.always, .identity⟩ (some (· == 3))
    none [] .first [1] 2 [3] rfl
  ⟨rfl, h.1.1, h.2.1⟩

/-- A list of the rows up to one, in the order of their source, is not cancelled while the second
row is on its way, and the third one is pulled after it. -/
theorem list_pulls_on :
    (list askedDuringSecond (some (· ≤ 1)) none [] .first false).result = .ok ⟨[1], .first, 1⟩ ∧
      (list askedDuringSecond (some (· ≤ 1)) none [] .first false).pulled = 3 :=
  ⟨rfl, rfl⟩

end Suspending

end RecordQuery.Repository
