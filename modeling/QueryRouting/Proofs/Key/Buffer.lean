import QueryRouting.Proofs.Key.Codec

/-!
# Encodings that share a buffer

A value is encoded into a buffer in one piece or not at all.  The bytes that it has alone go to
the end of the buffer, whatever the buffer holds, and a value without an encoding leaves the
buffer as it was, since its error comes before its first byte.  So of several items that are
encoded in turn the buffer gets the bytes of those that have an encoding, one after another.

## Main definitions

* `Adds filling result` — `filling` adds the bytes of `result` to any buffer, or fails with its
  error and adds nothing.
* `AppendStep before item step` — what one item does to a buffer.
* `AppendRun before items steps after` — what several items do to it in turn.

## Main results

* `adds_encodeInto` — a value adds what it is alone encoded as, or nothing.
* `appendRun_appendEncodings` — what a buffer gets from several items.
-/

namespace QueryRouting

/-! ### Work on a buffer -/

/-- Work that adds the bytes of a result to any buffer, and with an error nothing. -/
def Adds (filling : Filling) (result : Except RoutingError Bytes) : Prop :=
  ∀ buffer, filling.run buffer = match result with
    | .ok bs => .ok () (buffer ++ bs)
    | .error e => .error e buffer

namespace Adds

variable {filling filling' : Filling} {result result' : Except RoutingError Bytes}

theorem putBytes (bs : Bytes) : Adds (putBytes bs) (.ok bs) := fun _ => rfl

/-- An error ends the work, whatever there was to do. -/
theorem throw_bind (e : RoutingError) (rest : Unit → Filling) :
    Adds (throw e >>= rest) (.error e) := fun _ => rfl

theorem throw (e : RoutingError) : Adds (throw e) (.error e) := fun _ => rfl

theorem ite {c : Prop} [Decidable c] (h : Adds filling result) (h' : Adds filling' result') :
    Adds (if c then filling else filling') (if c then result else result') := by
  by_cases hc : c
  · simpa only [if_pos hc] using h
  · simpa only [if_neg hc] using h'

end Adds

/-- Every check comes before the first byte of its value. -/
theorem adds_encodeFittingInto (type : ColumnType) (value : Value) :
    Adds (encodeFittingInto type value) (encodeFitting type value) := by
  unfold encodeFittingInto encodeFitting
  split
  case h_3 => exact (Adds.putBytes _).ite (Adds.throw_bind _ _)
  case h_16 => exact (Adds.throw_bind _ _).ite (Adds.putBytes _)
  case h_18 => exact Adds.throw _
  all_goals exact Adds.putBytes _

/-- **A value adds to a buffer what it is alone encoded as**, or fails and adds nothing. -/
theorem adds_encodeInto (type : ColumnType) (value : Value) :
    Adds (encodeInto type value) (encode type value) :=
  (adds_encodeFittingInto type value).ite (Adds.throw_bind _ _)

/-- A value is encoded as what it puts into an empty buffer. -/
theorem encode_eq_run (type : ColumnType) (value : Value) :
    encode type value = match (encodeInto type value).run [] with
      | .ok () bs => .ok bs
      | .error e _ => .error e := by
  rw [adds_encodeInto type value []]
  cases encode type value <;> rfl

/-! ### Several items in turn -/

/-- What an item does to the buffer before it: its bytes go to the end, or its error leaves the
buffer as it is. -/
inductive AppendStep : Bytes → ColumnType × Value → Bytes × Option RoutingError → Prop where
  | added {before bs : Bytes} {type : ColumnType} {value : Value} :
      encode type value = .ok bs → AppendStep before (type, value) (before ++ bs, none)
  | refused {before : Bytes} {type : ColumnType} {value : Value} {e : RoutingError} :
      encode type value = .error e → AppendStep before (type, value) (before, some e)

/-- What several items do to a buffer, each to the buffer that the items before it have left. -/
inductive AppendRun : Bytes → List (ColumnType × Value) → List (Bytes × Option RoutingError) →
    Bytes → Prop where
  | nil (buffer : Bytes) : AppendRun buffer [] [] buffer
  | cons {before after : Bytes} {item : ColumnType × Value} {items : List (ColumnType × Value)}
      {step : Bytes × Option RoutingError} {steps : List (Bytes × Option RoutingError)} :
      AppendStep before item step → AppendRun step.1 items steps after →
      AppendRun before (item :: items) (step :: steps) after

/-- The bytes that an item is alone encoded as, when it has an encoding. -/
def encoding? (item : ColumnType × Value) : Option Bytes := (encode item.1 item.2).toOption

variable {before after : Bytes} {item : ColumnType × Value} {items : List (ColumnType × Value)}
  {steps : List (Bytes × Option RoutingError)}

theorem appendStep_appendEncoding (before : Bytes) (item : ColumnType × Value) :
    AppendStep before item (appendEncoding before item) := by
  obtain ⟨type, value⟩ := item
  rw [appendEncoding, adds_encodeInto type value before]
  cases h : encode type value with
  | ok bs => exact .added h
  | error e => exact .refused h

/-- A step leaves the buffer with the bytes of its item, if it has any. -/
theorem AppendStep.fst_eq {step : Bytes × Option RoutingError} (h : AppendStep before item step) :
    step.1 = before ++ (encoding? item).getD [] := by
  cases h with
  | added h => simp [encoding?, h, Except.toOption]
  | refused h => simp [encoding?, h, Except.toOption]

/-- **A run leaves the buffer with the bytes of the items that have an encoding**, in turn. -/
theorem AppendRun.after_eq (h : AppendRun before items steps after) :
    after = before ++ (items.filterMap encoding?).flatten := by
  induction h with
  | nil buffer => simp
  | cons hstep _ ih =>
    rw [ih, hstep.fst_eq, List.append_assoc, List.filterMap_cons]
    congr 1
    cases encoding? _ <;> simp

theorem exists_appendRun (before : Bytes) (items : List (ColumnType × Value)) :
    ∃ after, AppendRun before items (appendEncodings before items) after := by
  induction items generalizing before with
  | nil => exact ⟨before, .nil before⟩
  | cons item items ih =>
    obtain ⟨after, h⟩ := ih (appendEncoding before item).1
    exact ⟨after, .cons (appendStep_appendEncoding before item) h⟩

/-- **Encoding into a buffer is all or nothing.**  A value is encoded as what it puts into an
empty buffer.  Each of several items adds these bytes to the buffer that the items before it have
left, or it fails with the error that it has alone and leaves the buffer as it is.  So in the end
the buffer holds what it held at the start, and then the bytes of the items that did not fail. -/
theorem appendRun_appendEncodings (start : Bytes) (items : List (ColumnType × Value)) :
    (∀ type value, encode type value = match (encodeInto type value).run [] with
      | .ok () bs => .ok bs
      | .error e _ => .error e) ∧
    AppendRun start items (appendEncodings start items)
      (start ++ (items.filterMap encoding?).flatten) := by
  refine ⟨encode_eq_run, ?_⟩
  obtain ⟨after, h⟩ := exists_appendRun start items
  exact h.after_eq ▸ h

/-- Of four items the second and the third fail, a text that is not ASCII and a leap second. -/
example : appendEncodings [0xaa] [(.int, .int 1), (.ascii, .text "é"),
      (.time, .time ⟨59, 1000000000, by decide, by decide⟩), (.boolean, .boolean true)]
    = [([0xaa, 0, 0, 0, 1], none),
      ([0xaa, 0, 0, 0, 1], some (.typeMismatch .ascii "non-ascii text")),
      ([0xaa, 0, 0, 0, 1], some (.invalidEncoding .time
        (.leapSecond ⟨59, 1000000000, by decide, by decide⟩))),
      ([0xaa, 0, 0, 0, 1, 1], none)] := by decide

end QueryRouting
