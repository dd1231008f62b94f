import Subledger.Json.Scan

/-! # Running reading steps

A reading step is run over a source from a byte offset (`Scan.runAt`) and gives its result and
the offset it stopped at. The bytes of the source from an offset on are `ScanSource.rest`; a
step that goes through is described by what it gives when the rest starts with given bytes.

This module pushes runs through the monad (`bind`, `map`, `tryCatch`) and gives the runs of the
small steps readers are made of: looking at a byte, skipping blank space when there is none,
literal words, the colon and the brackets, and moving to the next field or element.
-/

namespace Subledger

namespace ScanSource

/-- The bytes of the source from offset `i` on. -/
def rest (src : ScanSource) (i : Nat) : List UInt8 := src.bytes.data.toList.drop i

end ScanSource

namespace Scan

variable {α β : Type}

/-- The result of a step run over `src` from offset `i`, with the offset it stopped at. -/
def runAt (x : Scan α) (src : ScanSource) (i : Nat) : Except ScanError α × Nat :=
  (x.run src).run.run i

@[simp] theorem runAt_pure (a : α) (src : ScanSource) (i : Nat) :
    runAt (pure a) src i = (.ok a, i) := rfl

theorem runAt_bind (x : Scan α) (g : α → Scan β) (src : ScanSource) (i : Nat) :
    runAt (x >>= g) src i =
      match runAt x src i with
      | (.ok a, j) => runAt (g a) src j
      | (.error e, j) => (.error e, j) := by
  rcases e : runAt x src i with ⟨_ | _, j⟩ <;> simp only [runAt] at e ⊢ <;>
    simp only [ReaderT.run_bind, ExceptT.run_bind, StateT.run_bind, e] <;> rfl

theorem runAt_bind_ok {x : Scan α} {g : α → Scan β} {src : ScanSource} {i j : Nat} {a : α}
    (h : runAt x src i = (.ok a, j)) : runAt (x >>= g) src i = runAt (g a) src j := by
  rw [runAt_bind, h]

theorem runAt_map (f : α → β) (x : Scan α) (src : ScanSource) (i : Nat) :
    runAt (f <$> x) src i =
      match runAt x src i with
      | (.ok a, j) => (.ok (f a), j)
      | (.error e, j) => (.error e, j) := by
  rw [map_eq_pure_bind, runAt_bind]
  rcases runAt x src i with ⟨_ | _, j⟩ <;> rfl

theorem runAt_tryCatch (x : Scan α) (h : ScanError → Scan α) (src : ScanSource) (i : Nat) :
    runAt (tryCatch x h) src i =
      match runAt x src i with
      | (.ok a, j) => (.ok a, j)
      | (.error e, j) => runAt (h e) src j := by
  rcases e : runAt x src i with ⟨_ | _, j⟩ <;>
    simp only [runAt] at e ⊢ <;>
    simp only [tryCatch, tryCatchThe, MonadExceptOf.tryCatch, ExceptT.tryCatch, ExceptT.mk,
      ExceptT.run, ReaderT.run, StateT.run, bind, StateT.bind]
  case error => rw [show x src i = _ from e]
  case ok =>
    rw [show x src i = _ from e]
    rfl

@[simp] theorem runAt_read (src : ScanSource) (i : Nat) : runAt read src i = (.ok src, i) := rfl

@[simp] theorem runAt_readThe (src : ScanSource) (i : Nat) :
    runAt (readThe ScanSource) src i = (.ok src, i) := rfl

@[simp] theorem runAt_get (src : ScanSource) (i : Nat) : runAt get src i = (.ok i, i) := rfl

@[simp] theorem runAt_set (src : ScanSource) (i j : Nat) : runAt (set j) src i = (.ok (), j) :=
  rfl

@[simp] theorem runAt_throw (e : ScanError) (src : ScanSource) (i : Nat) :
    runAt (throw e : Scan α) src i = (.error e, i) := rfl

theorem runAt_peek (src : ScanSource) (i : Nat) : runAt peek src i = (.ok src.bytes[i]?, i) :=
  rfl

theorem runAt_bump (src : ScanSource) (i : Nat) : runAt bump src i = (.ok (), i + 1) := rfl

/-- Wherever the source holds `bytes` next, `x` reads exactly them and gives `a`. -/
def Reads (x : Scan α) (src : ScanSource) (bytes : List UInt8) (a : α) : Prop :=
  ∀ i more, src.rest i = bytes ++ more → runAt x src i = (.ok a, i + bytes.length)

/-- What may follow a value inside an array or an object: the end of the text, a comma, or a
closing bracket or brace. -/
def Delimited : List UInt8 → Prop
  | [] => True
  | b :: _ => b = 44 ∨ b = 93 ∨ b = 125

/-- Wherever the source holds `bytes` next and a delimiter after them, `x` reads exactly them and
gives `a`. A number is read so: its reader looks at the byte after its digits. -/
def ReadsTo (x : Scan α) (src : ScanSource) (bytes : List UInt8) (a : α) : Prop :=
  ∀ i more, src.rest i = bytes ++ more → Delimited more →
    runAt x src i = (.ok a, i + bytes.length)

theorem Reads.readsTo {x : Scan α} {src : ScanSource} {bytes : List UInt8} {a : α}
    (h : Reads x src bytes a) : ReadsTo x src bytes a :=
  fun i more at_ _ => h i more at_

/-! ## Combinators that keep a success -/

theorem runAt_settle {x : Scan α} {src : ScanSource} {i j : Nat} {a : α}
    (h : runAt x src i = (.ok a, j)) : runAt (settle x) src i = (.ok a, j) := by
  rw [settle, runAt_tryCatch, h]

theorem runAt_attempt {x : Scan α} {src : ScanSource} {i j : Nat} {a : α}
    (h : runAt x src i = (.ok a, j)) : runAt (attempt x) src i = (.ok (.ok a), j) := by
  rw [attempt, runAt_tryCatch, runAt_map, h]

theorem runAt_andThenAlways {x : Scan α} {after : Scan Unit} {src : ScanSource} {i j k : Nat}
    {a : α} (h : runAt x src i = (.ok a, j)) (h' : runAt after src j = (.ok (), k)) :
    runAt (andThenAlways x after) src i = (.ok a, k) := by
  rw [andThenAlways, runAt_bind_ok (runAt_attempt h), runAt_bind_ok (runAt_attempt h')]
  rfl

/-! ## Steps that fail

A text that does not read is refused with some message at some offset; which one is the
reader's business, so a failure is described by its existence alone.
-/

/-- The step fails when run from offset `i`. -/
def Fails (x : Scan α) (src : ScanSource) (i : Nat) : Prop := ∃ e j, runAt x src i = (.error e, j)

section Failures

variable {x : Scan α} {src : ScanSource} {i : Nat}

theorem Fails.bind {g : α → Scan β} (h : Fails x src i) : Fails (x >>= g) src i := by
  obtain ⟨e, j, failed⟩ := h
  exact ⟨e, j, by rw [runAt_bind, failed]⟩

theorem Fails.bind_ok {g : α → Scan β} {a : α} {j : Nat} (ok : runAt x src i = (.ok a, j))
    (h : Fails (g a) src j) : Fails (x >>= g) src i := by
  unfold Fails
  rwa [runAt_bind_ok ok]

theorem Fails.map {f : α → β} (h : Fails x src i) : Fails (f <$> x) src i := by
  obtain ⟨e, j, failed⟩ := h
  exact ⟨e, j, by rw [runAt_map, failed]⟩

theorem Fails.settle (h : Fails x src i) : Fails (settle x) src i := by
  obtain ⟨e, j, failed⟩ := h
  unfold Fails
  rw [Scan.settle, runAt_tryCatch, failed]
  -- the handler throws again, with the offset the step stopped at when the failure had none
  dsimp only
  split
  · exact ⟨e, j, runAt_throw e src j⟩
  · rw [runAt_bind_ok (runAt_get src j)]
    exact ⟨_, j, runAt_throw _ src j⟩

/-- A step that ends by refusing fails, whatever came before. -/
theorem fails_bind_refuse (message : α → String) :
    Fails (x >>= fun a => (refuse (message a) : Scan β)) src i := by
  unfold Fails
  rw [runAt_bind]
  rcases runAt x src i with ⟨_ | a, j⟩
  · exact ⟨_, j, rfl⟩
  · exact ⟨_, j, rfl⟩

end Failures

/-! ## The bytes at the offset -/

section Bytes

variable {src : ScanSource} {i : Nat} {b : UInt8} {more : List UInt8}

theorem getElem?_bytes (src : ScanSource) (i : Nat) : src.bytes[i]? = (src.rest i).head? := by
  simp only [ScanSource.rest, List.head?_drop, Array.getElem?_toList]
  by_cases h : i < src.bytes.size
  · rw [getElem?_pos src.bytes i h, getElem?_pos src.bytes.data i (by rwa [ByteArray.size_data])]
    rfl
  · rw [getElem?_neg src.bytes i h, getElem?_neg src.bytes.data i (by rwa [ByteArray.size_data])]

theorem rest_cons (h : src.rest i = b :: more) : src.bytes[i]? = some b := by
  rw [getElem?_bytes, h]
  rfl

theorem rest_succ (h : src.rest i = b :: more) : src.rest (i + 1) = more := by
  simp only [ScanSource.rest] at h ⊢
  rw [← List.drop_drop, h]
  rfl

theorem rest_append {p : List UInt8} (h : src.rest i = p ++ more) :
    src.rest (i + p.length) = more := by
  simp only [ScanSource.rest] at h ⊢
  rw [← List.drop_drop, h, List.drop_left]

theorem get!_of_rest (h : src.rest i = b :: more) : src.bytes.get! i = b := by
  obtain ⟨⟨bytes⟩, located⟩ := src
  simp only [ScanSource.rest] at h
  show bytes[i]! = b
  rw [getElem!_def, ← Array.getElem?_toList, ← List.head?_drop, h]
  rfl

theorem size_of_rest {p : List UInt8} (h : src.rest i = p ++ more) (pos : 0 < p.length) :
    i + p.length ≤ src.bytes.size := by
  have length := congrArg List.length h
  simp only [ScanSource.rest, List.length_drop, Array.length_toList, ByteArray.size_data,
    List.length_append] at length
  omega

theorem runAt_peek_bind {g : Option UInt8 → Scan β} (h : src.rest i = b :: more) :
    runAt (peek >>= g) src i = runAt (g (some b)) src i :=
  runAt_bind_ok (by rw [runAt_peek, rest_cons h])

theorem runAt_bump_bind {g : Unit → Scan β} :
    runAt (bump >>= g) src i = runAt (g ()) src (i + 1) :=
  runAt_bind_ok (runAt_bump src i)

theorem skipBlank_at (h : src.rest i = b :: more) (notBlank : isBlank b = false) :
    runAt skipBlank src i = (.ok (some b), i) := by
  simp only [skipBlank]
  rw [runAt_bind]
  simp only [runAt_read]
  cases src.bytes.size with
  | zero => simp [skipBlank.go, runAt_peek, rest_cons h]
  | succ n => simp [skipBlank.go, runAt_bind, runAt_peek, rest_cons h, notBlank]

theorem skipBlank_end (h : src.rest i = []) : runAt skipBlank src i = (.ok none, i) := by
  have none : src.bytes[i]? = none := by
    rw [getElem?_bytes, h]
    rfl
  simp only [skipBlank]
  rw [runAt_bind]
  simp only [runAt_read]
  cases src.bytes.size with
  | zero => simp [skipBlank.go, runAt_peek, none]
  | succ n => simp [skipBlank.go, runAt_bind, runAt_peek, none]

/-- Skipping moves one byte of blank space at a time, so with enough fuel it passes all of
them and stops at the byte after, if any. -/
theorem skipBlank_go_over {blanks : List UInt8} (h : src.rest i = blanks ++ more)
    (blank : ∀ c ∈ blanks, isBlank c = true) (stop : ∀ c ∈ more.head?, isBlank c = false)
    (fuel : Nat) (enough : blanks.length ≤ fuel) :
    runAt (skipBlank.go fuel) src i = (.ok more.head?, i + blanks.length) := by
  induction blanks generalizing i fuel with
  | nil =>
    rw [List.nil_append] at h
    cases fuel with
    | zero => simp [skipBlank.go, runAt_peek, getElem?_bytes, h]
    | succ n =>
      cases more with
      | nil => simp [skipBlank.go, runAt_bind, runAt_peek, getElem?_bytes, h]
      | cons c rest => simp [skipBlank.go, runAt_bind, runAt_peek, getElem?_bytes, h, stop c rfl]
  | cons c cs ih =>
    obtain ⟨n, rfl⟩ : ∃ n, fuel = n + 1 := ⟨fuel - 1, by simp at enough; omega⟩
    have skipped := ih (rest_succ h) (fun d mem => blank d (List.mem_cons_of_mem c mem)) n
      (by simpa using enough)
    simp only [skipBlank.go]
    rw [runAt_peek_bind h]
    simp only [blank c List.mem_cons_self, if_true, runAt_bump_bind, skipped, List.length_cons]
    rw [Nat.add_assoc, Nat.add_comm 1]

theorem skipBlank_over {blanks : List UInt8} (h : src.rest i = blanks ++ more)
    (blank : ∀ c ∈ blanks, isBlank c = true) (stop : ∀ c ∈ more.head?, isBlank c = false) :
    runAt skipBlank src i = (.ok more.head?, i + blanks.length) := by
  -- the fuel is the size of the whole text, past the offset as much as before it
  have enough : blanks.length ≤ src.bytes.size := by
    have length := congrArg List.length h
    simp only [ScanSource.rest, List.length_drop, Array.length_toList, ByteArray.size_data,
      List.length_append] at length
    omega
  simp only [skipBlank]
  rw [runAt_bind]
  simp only [runAt_read]
  exact skipBlank_go_over h blank stop _ enough

theorem runAt_skipBlank_bind {g : Option UInt8 → Scan β} (h : src.rest i = b :: more)
    (notBlank : isBlank b = false) :
    runAt (skipBlank >>= g) src i = runAt (g (some b)) src i :=
  runAt_bind_ok (skipBlank_at h notBlank)

theorem Reads.bind {x : Scan α} {g : α → Scan β} {first second : List UInt8} {a : α} {c : β}
    (hx : Reads x src first a) (hg : Reads (g a) src second c) :
    Reads (x >>= g) src (first ++ second) c := by
  intro i more h
  rw [List.append_assoc] at h
  rw [runAt_bind_ok (hx i _ h), hg _ more (rest_append h), List.length_append, Nat.add_assoc]

theorem Reads.map {x : Scan α} {f : α → β} {bytes : List UInt8} {a : α}
    (hx : Reads x src bytes a) : Reads (f <$> x) src bytes (f a) := by
  intro i more h
  rw [runAt_map, hx i more h]

theorem Reads.settle {x : Scan α} {bytes : List UInt8} {a : α} (hx : Reads x src bytes a) :
    Reads (Scan.settle x) src bytes a :=
  fun i more h => runAt_settle (hx i more h)

theorem Reads.bump_bind {g : Unit → Scan β} {bytes : List UInt8} {c : β}
    (hg : Reads (g ()) src bytes c) : Reads (bump >>= g) src (b :: bytes) c := by
  intro i more h
  rw [runAt_bump_bind, hg (i + 1) more (rest_succ h), List.length_cons, Nat.add_assoc,
    Nat.add_comm 1]

end Bytes

theorem expectWord_reads {src : ScanSource} {more : List UInt8} (cs : List Char)
    (ascii : ∀ c ∈ cs, c.toNat < 256) :
    ∀ i, src.rest i = cs.map (fun c => c.toNat.toUInt8) ++ more →
      runAt (expectWord cs) src i = (.ok (), i + cs.length) := by
  induction cs with
  | nil => intro i _; rfl
  | cons c cs ih =>
    intro i h
    have small := ascii c (by simp)
    simp only [List.map_cons, List.cons_append] at h
    have same : (c.toNat.toUInt8.toNat == c.toNat) = true := by
      simp [Nat.mod_eq_of_lt small]
    simp only [expectWord]
    rw [runAt_peek_bind h]
    simp only [runAt_bump_bind, same, if_true]
    rw [ih (fun d mem => ascii d (by simp [mem])) (i + 1) (rest_succ h), List.length_cons,
      Nat.add_assoc, Nat.add_comm 1 cs.length]

/-! ## Punctuation -/

section Punctuation

variable {src : ScanSource} {i : Nat} {more : List UInt8}

theorem expectColon_at (h : src.rest i = 58 :: more) :
    runAt expectColon src i = (.ok (), i + 1) := by
  rw [expectColon, runAt_skipBlank_bind h rfl]
  rfl

theorem closeList_at (h : src.rest i = 93 :: more) : runAt closeList src i = (.ok (), i + 1) := by
  rw [closeList, runAt_skipBlank_bind h rfl]
  rfl

theorem closeObject_at (h : src.rest i = 125 :: more) :
    runAt closeObject src i = (.ok (), i + 1) := by
  rw [closeObject, runAt_skipBlank_bind h rfl]
  rfl

theorem expectEnd_at (h : src.rest i = []) : runAt expectEnd src i = (.ok (), i) := by
  rw [expectEnd, runAt_bind_ok (skipBlank_end h)]
  rfl

theorem nextKey_close (first : Bool) (h : src.rest i = 125 :: more) :
    runAt (nextKey first) src i = (.ok none, i) := by
  rw [nextKey, runAt_bind_ok (skipBlank_at h rfl)]
  rfl

theorem nextKey_first (h : src.rest i = 34 :: more) :
    runAt (nextKey true) src i = runAt (some <$> readString) src (i + 1) := by
  rw [nextKey, runAt_bind_ok (skipBlank_at h rfl)]
  rfl

theorem nextKey_comma (h : src.rest i = 44 :: 34 :: more) :
    runAt (nextKey false) src i = runAt (some <$> readString) src (i + 2) := by
  rw [nextKey, runAt_bind_ok (skipBlank_at h rfl)]
  simp only [Bool.false_eq_true, if_false]
  rw [runAt_bump_bind, runAt_bind_ok (skipBlank_at (rest_succ h) rfl)]
  rfl

theorem nextElement_close (first : Bool) (h : src.rest i = 93 :: more) :
    runAt (nextElement first) src i = (.ok false, i) := by
  rw [nextElement, runAt_bind_ok (skipBlank_at h rfl)]
  rfl

theorem nextElement_first {b : UInt8} (h : src.rest i = b :: more) (notBlank : isBlank b = false)
    (notClose : b ≠ 93) (notComma : b ≠ 44) :
    runAt (nextElement true) src i = (.ok true, i) := by
  rw [nextElement, runAt_bind_ok (skipBlank_at h notBlank)]
  split
  · rename_i same
    exact absurd (Option.some.inj same) notClose
  · rename_i same
    exact absurd (Option.some.inj same) notComma
  · rename_i val _ same
    cases Option.some.inj same
    simp only [if_true, pure_bind]
    rfl
  · rename_i same
    cases same

theorem nextElement_comma {b : UInt8} (h : src.rest i = 44 :: b :: more)
    (notBlank : isBlank b = false) (notClose : b ≠ 93) :
    runAt (nextElement false) src i = (.ok true, i + 1) := by
  rw [nextElement, runAt_bind_ok (skipBlank_at h rfl)]
  simp only [Bool.false_eq_true, if_false]
  rw [runAt_bump_bind, runAt_bind_ok (skipBlank_at (rest_succ h) notBlank)]
  split
  · rename_i wrong
    cases wrong
  · rename_i same
    exact absurd (Option.some.inj same) notClose
  · rfl

end Punctuation

end Scan

end Subledger
