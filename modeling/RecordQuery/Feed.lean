import RecordQuery.Page

/-!
# Feeds

A `Feed` is a sequence of rows that arrive one at a time, any of which may be a fault instead. A
caller may ask for cancellation at any moment; a feed says at which pulls that happens, so that
whatever is said about a feed is said about every moment.

`Feed.drain` shows the rows to a visitor until it has seen enough. It looks for a cancellation
before it asks for the next row that is wanted, and not while rows are pulled that are not wanted.
`Feed.load` is all rows at once, or the first fault.
-/

namespace RecordQuery

/-- What one pull brings. -/
structure Pull (α ε : Type) where
  /-- Whether cancellation is asked for while the row is on its way. -/
  cancels : Bool
  row : Except ε α

/-- Rows that arrive one at a time. -/
structure Feed (α ε : Type) where
  pulls : List (Pull α ε)
  /-- Whether cancellation is asked for while the end is found. -/
  endCancels : Bool := false

/-- Why rows were not read to the end. -/
inductive Interruption (ε : Type) where
  | source (fault : ε)
  | cancelled

/-- What a visitor says about the next row. -/
inductive Visit (σ : Type) where
  | more (state : σ)
  | enough (state : σ)

/-- How reading a feed came out. -/
structure Drained (σ ε : Type) where
  result : Except (Interruption ε) σ
  /-- Whether cancellation has been asked for by now. -/
  cancelled : Bool
  /-- The number of rows that were pulled. -/
  pulled : Nat

namespace Feed

variable {α ε σ : Type}

/-- The feed of some rows, without faults and cancellations. -/
def ofList (rows : List α) : Feed α ε := ⟨rows.map fun a => ⟨false, .ok a⟩, false⟩

/-- The feed that brings a fault. -/
def ofFault (fault : ε) : Feed α ε := ⟨[⟨false, .error fault⟩], false⟩

/-- The feed of all rows or of the fault that was met instead. -/
def ofExcept : Except ε (List α) → Feed α ε
  | .ok rows => ofList rows
  | .error fault => ofFault fault

/-! ## Row by row -/

/-- Shows the rows that are wanted to a visitor. `looks` says whether a wanted row has just been
shown, so that cancellation is looked for before the next pull. -/
def drainFrom (wanted : α → Bool) (visit : σ → α → Visit σ) (endCancels : Bool) :
    (looks cancelled : Bool) → (pulled : Nat) → σ → List (Pull α ε) → Drained σ ε
  | looks, cancelled, pulled, s, pulls =>
    if looks && cancelled then ⟨.error .cancelled, cancelled, pulled⟩
    else
      match pulls with
      | [] => ⟨.ok s, cancelled || endCancels, pulled⟩
      | p :: rest =>
        match p.row with
        | .error fault => ⟨.error (.source fault), cancelled || p.cancels, pulled⟩
        | .ok a =>
          if wanted a then
            match visit s a with
            | .enough s => ⟨.ok s, cancelled || p.cancels, pulled + 1⟩
            | .more s =>
              drainFrom wanted visit endCancels true (cancelled || p.cancels) (pulled + 1) s rest
          else drainFrom wanted visit endCancels false (cancelled || p.cancels) (pulled + 1) s rest

/-- Shows the rows that are wanted to a visitor. -/
def drain (f : Feed α ε) (wanted : α → Bool) (cancelled : Bool) (visit : σ → α → Visit σ)
    (start : σ) : Drained σ ε :=
  drainFrom wanted visit f.endCancels true cancelled 0 start f.pulls

/-- The rows that are wanted. A cancellation during the last pulls counts. -/
def collect (f : Feed α ε) (wanted : α → Bool) (cancelled : Bool) : Drained (List α) ε :=
  let d := f.drain wanted cancelled (fun rows a => .more (a :: rows)) []
  match d.result with
  | .error e => { d with result := .error e }
  | .ok rows => { d with result := if d.cancelled then .error .cancelled else .ok rows.reverse }

/-- The page of a window of the rows that are wanted. -/
def paginate (f : Feed α ε) (wanted : α → Bool) (r : Page.Request) (cancelled : Bool) :
    Drained (Page α) ε :=
  let d := f.drain wanted cancelled (fun c a => .more (c.push a)) (Page.Collector.ofRequest r)
  { d with result := d.result.map Page.Collector.page }

/-! ## All at once -/

/-- The rows of pulls, or the first fault. -/
def loadPulls : List (Pull α ε) → Except ε (List α)
  | [] => .ok []
  | p :: rest =>
    match p.row, loadPulls rest with
    | .error fault, _ => .error fault
    | .ok _, .error fault => .error fault
    | .ok a, .ok rows => .ok (a :: rows)

/-- All rows, or the first fault. -/
def load (f : Feed α ε) : Except ε (List α) := loadPulls f.pulls

/-- The number of rows before the first fault. -/
def readable (f : Feed α ε) : Nat := (f.pulls.takeWhile fun p => p.row.toBool).length

end Feed

end RecordQuery
