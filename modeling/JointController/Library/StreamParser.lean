import Mathlib.Data.List.Basic

/-!
# Parsers of a stream

A parser keeps what it has received and not taken yet.  In each round it takes some units from the
front of the buffer, and may find an item there; it stops when the buffer is too short to decide.

* `StreamParser`: one round, which later units do not change.
* `drain`: rounds until none is possible, with `drain_append`.
* `feed`: a chunk arrives, with `foldl_feed`: the chunks do not matter.
* `drain_items`: encoded items are found one by one.
* `Takes`: rounds that lead from one buffer to another, with `Takes.drain`.
-/

/-- One round of a parser: how many units it takes from the buffer, and the item that it finds. -/
structure StreamParser (β α : Type*) where
  round : List β → Option (ℕ × Option α)
  pos : ∀ {buffer n item}, round buffer = some (n, item) → 0 < n
  le_length : ∀ {buffer n item}, round buffer = some (n, item) → n ≤ buffer.length
  append : ∀ {buffer n item} (more : List β), round buffer = some (n, item) →
    round (buffer ++ more) = some (n, item)

namespace StreamParser

variable {β α : Type*} (P : StreamParser β α)

variable {P} in
theorem length_drop_lt {buffer : List β} {n : ℕ} {item : Option α}
    (h : P.round buffer = some (n, item)) : (buffer.drop n).length < buffer.length := by
  have hpos := P.pos h
  have hle := P.le_length h
  rw [List.length_drop]
  omega

/-- The items that are found in a buffer, and what is left of it. -/
def drain (buffer : List β) : List α × List β :=
  match _h : P.round buffer with
  | none => ([], buffer)
  | some (n, item) =>
    let later := drain (buffer.drop n)
    (item.toList ++ later.1, later.2)
termination_by buffer.length
decreasing_by exact length_drop_lt _h

variable {P}

theorem drain_of_none {buffer : List β} (h : P.round buffer = none) :
    P.drain buffer = ([], buffer) := by
  rw [drain]
  split
  · rfl
  · rename_i n item hsome
    cases h.symm.trans hsome

theorem drain_of_some {buffer : List β} {n : ℕ} {item : Option α}
    (h : P.round buffer = some (n, item)) :
    P.drain buffer =
      (item.toList ++ (P.drain (buffer.drop n)).1, (P.drain (buffer.drop n)).2) := by
  rw [drain]
  split
  · rename_i hnone
    cases h.symm.trans hnone
  · rename_i n' item' hsome
    obtain ⟨rfl, rfl⟩ := Prod.mk.inj (Option.some_inj.mp (h.symm.trans hsome))
    rfl

/-- A round that finds nothing. -/
theorem drain_of_skip {buffer : List β} {n : ℕ} (h : P.round buffer = some (n, none)) :
    P.drain buffer = P.drain (buffer.drop n) := by
  rw [drain_of_some h]
  rfl

/-- The induction rule of the rounds. -/
theorem drain_induction {motive : List β → Prop}
    (stop : ∀ buffer, P.round buffer = none → motive buffer)
    (take : ∀ buffer n item, P.round buffer = some (n, item) → motive (buffer.drop n) →
      motive buffer) (buffer : List β) : motive buffer := by
  induction hlength : buffer.length using Nat.strongRecOn generalizing buffer with
  | ind length ih =>
    cases h : P.round buffer with
    | none => exact stop buffer h
    | some taken =>
      exact take buffer taken.1 taken.2 h (ih _ (hlength ▸ length_drop_lt h) _ rfl)

/-- More units are looked at behind what is left. -/
theorem drain_append (buffer more : List β) :
    P.drain (buffer ++ more) =
      ((P.drain buffer).1 ++ (P.drain ((P.drain buffer).2 ++ more)).1,
        (P.drain ((P.drain buffer).2 ++ more)).2) := by
  induction buffer using drain_induction (P := P) with
  | stop buffer h => rw [drain_of_none h, List.nil_append]
  | take buffer n item h ih =>
    rw [drain_of_some h, drain_of_some (P.append more h),
      List.drop_append_of_le_length (P.le_length h), ih, List.append_assoc]

/-- Nothing more is found in what is left. -/
theorem round_drain (buffer : List β) : P.round (P.drain buffer).2 = none := by
  induction buffer using drain_induction (P := P) with
  | stop buffer h => rw [drain_of_none h, h]
  | take buffer n item h ih => rw [drain_of_some h, ih]

theorem round_nil : P.round [] = none := by
  cases h : P.round [] with
  | none => rfl
  | some taken => exact absurd (P.le_length h) (Nat.not_le.mpr (P.pos h))

variable (P)

/-- A chunk arrives: the items found so far, and what is left. -/
def feed (s : List α × List β) (chunk : List β) : List α × List β :=
  let later := P.drain (s.2 ++ chunk)
  (s.1 ++ later.1, later.2)

variable {P}

theorem feed_feed (s : List α × List β) (chunk chunk' : List β) :
    P.feed (P.feed s chunk) chunk' = P.feed s (chunk ++ chunk') := by
  unfold feed
  dsimp only
  rw [← List.append_assoc s.2, drain_append (s.2 ++ chunk), List.append_assoc]

/-- How the units are split into chunks does not matter. -/
theorem foldl_feed (chunks : List (List β)) : ∀ s : List α × List β, P.round s.2 = none →
    chunks.foldl P.feed s = P.feed s chunks.flatten := by
  induction chunks with
  | nil =>
    intro s h
    rw [List.foldl_nil, List.flatten_nil, feed, List.append_nil, drain_of_none h]
    exact Prod.ext (List.append_nil _).symm rfl
  | cons chunk chunks ih =>
    intro s h
    have hsettled : P.round (P.feed s chunk).2 = none := round_drain (s.2 ++ chunk)
    rw [List.foldl_cons, ih _ hsettled, feed_feed, List.flatten_cons]

/-- Encoded items are found one by one. -/
theorem drain_items {encode : α → List β}
    (h : ∀ item rest, P.round (encode item ++ rest) = some ((encode item).length, some item))
    (items : List α) : P.drain (items.flatMap encode) = (items, []) := by
  induction items with
  | nil => exact drain_of_none round_nil
  | cons item items ih =>
    rw [List.flatMap_cons, drain_of_some (h item _), List.drop_left, ih]
    rfl

/-! ## Rounds between two buffers -/

/-- Rounds lead from the first buffer to the second one, and find the items on the way. -/
inductive Takes (P : StreamParser β α) : List β → List α → List β → Prop where
  | done (buffer : List β) : Takes P buffer [] buffer
  | round {buffer rest : List β} {n : ℕ} {item : Option α} {items : List α}
      (h : P.round buffer = some (n, item)) (later : Takes P (buffer.drop n) items rest) :
      Takes P buffer (item.toList ++ items) rest

/-- What is found behind the second buffer is found behind the items. -/
theorem Takes.drain {buffer rest : List β} {items : List α} (h : P.Takes buffer items rest) :
    P.drain buffer = (items ++ (P.drain rest).1, (P.drain rest).2) := by
  induction h with
  | done buffer => rfl
  | round h _ ih => rw [drain_of_some h, ih, List.append_assoc]

theorem Takes.length_le {buffer rest : List β} {items : List α} (h : P.Takes buffer items rest) :
    rest.length ≤ buffer.length := by
  induction h with
  | done buffer => exact Nat.le_refl _
  | round h _ ih => exact Nat.le_trans ih (Nat.le_of_lt (length_drop_lt h))

end StreamParser
