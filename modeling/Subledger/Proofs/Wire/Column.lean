import Subledger.Proofs.Json.Shapes
import Subledger.Proofs.Decimal.Text
import Subledger.Proofs.Ident.Text
import Subledger.Proofs.Time.Text
import Subledger.Wire.Column

/-! # The payment records column read back

A column written by `encodeColumn` reads back as the records it was written from. Each record is
an object with its fields in declaration order, an empty remark and an absent reversal reason
left out; reading fills those from their defaults, which are exactly the values left out. Every
field reads back as written, instants to the nanosecond and leap seconds included, as long as
they are real instants; amounts keep their digits and scale, and only a zero amount loses a sign
it may carry. A missing column, blank text and `null` hold no records, and every failure is the
reader's message under the column's own.
-/

namespace Subledger

namespace PaymentRecord

/-- The record with a zero amount written without its sign, as reading it back gives it. -/
def canonical (r : PaymentRecord) : PaymentRecord := { r with amount := r.amount.canonical }

/-- Every instant the record holds is a real one: a second of its day, a leap second only at the
end of a minute, a year of the calendar. -/
structure Valid (r : PaymentRecord) : Prop where
  appliedAt : r.appliedAt.Valid
  reversedAt : ∀ t ∈ r.reversedAt, t.Valid

theorem canonical_eq_self {r : PaymentRecord}
    (unsigned : r.amount.negative = true → r.amount.mantissa ≠ 0) : r.canonical = r := by
  rw [canonical, Decimal.canonical_eq_self unsigned]

end PaymentRecord

namespace Wire

/-- The fields of a stored payment record. -/
def recordFields : Fields :=
  match recordShape with
  | .record _ fs => fs
  | _ => .nil

/-- The slots a record's stored form fills: an empty remark and an absent reversal reason are
left out. -/
def recordSlots (r : PaymentRecord) : recordFields.Slots :=
  (some r.id, some r.owner, some r.voucher, some r.amount.canonical, some r.appliedAt,
    (if r.remark.isEmpty then none else some r.remark), some r.status, some r.reversedAt,
    r.reversalReason.map some, ())

/-- The decoded form of a record. -/
def recordValue (r : PaymentRecord) : recordShape.Denote :=
  (r.id, r.owner, r.voucher, r.amount.canonical, r.appliedAt, r.remark, r.status, r.reversedAt,
    r.reversalReason, ())

theorem recordOf_recordValue (r : PaymentRecord) : recordOf (recordValue r) = r.canonical := rfl

end Wire

namespace Scan

variable {src : ScanSource}

theorem readDecimal_reads (d : Decimal) :
    Reads Wire.readDecimal src (Text.utf8 (Json.render (.str d.render)).toList) d.canonical := by
  rw [Json.render_str_bytes]
  apply Reads.settle
  intro i more h
  rw [runAt_skipBlank_bind h rfl]
  exact Reads.bump_bind (Reads.bind_pure (readString_reads d.render)
    (by simp only [Decimal.parseStored?_render])) i more h

theorem uuid_reads (u : Uuid) :
    Reads Wire.uuid.read src (Text.utf8 (Json.render (.str u.render)).toList) u :=
  parsed_reads (by simp only [Uuid.parse_render])

theorem instant_reads {t : Instant} (valid : t.Valid) :
    Reads Wire.instant.read src (Text.utf8 (Json.render (.str t.render)).toList) t :=
  parsed_reads (by simp only [Instant.parse_render t valid])

theorem status_reads (status : RecordStatus) (fallback : Option RecordStatus) :
    Reads (Wire.tagged RecordStatus.tags fallback).read src
      (Text.utf8 (Json.render (.str status.tag)).toList) status :=
  readVariant_reads (by cases status <;> rfl)

theorem optInstant_reads {moment : Option Instant} (valid : ∀ t ∈ moment, t.Valid) :
    Reads (Shape.option Wire.instant).read src
      (Text.utf8 (Json.render (Json.ofOptInstant moment)).toList) moment := by
  cases moment with
  | none => exact readOption_null _
  | some t => exact readOption_str (instant_reads (valid t rfl))

/-- The fields left out take their defaults, which are the values left out. -/
theorem finish_recordSlots (r : PaymentRecord) (j : Nat) :
    runAt (Fields.finish Wire.recordFields (Wire.recordSlots r)) src j =
      (.ok (Wire.recordValue r), j) := by
  obtain ⟨id, owner, voucher, amount, appliedAt, remark, status, reversedAt, reason⟩ := r
  by_cases empty : remark.isEmpty
  · obtain rfl : remark = "" := String.isEmpty_iff.mp empty
    cases reason <;> rfl
  · cases reason <;> simp only [Wire.recordSlots, empty] <;> rfl

theorem record_reads (r : PaymentRecord) (valid : r.Valid) :
    Reads Wire.recordShape.read src (Text.utf8 (Wire.recordJson r).render.toList)
      (Wire.recordValue r) := by
  show Reads (Shape.read (.record "PaymentRecord" Wire.recordFields)) src _ (Wire.recordValue r)
  rw [Wire.recordJson, render_obj_fieldsBytes]
  refine readRecord_reads ?_ (finish_recordSlots r)
  simp only [List.map_append, List.map_cons, List.append_assoc, List.cons_append,
    List.nil_append]
  -- one step per field in declaration order; only the remark and the reason may be left out
  refine .here (by decide) (uuid_reads r.id) <| .here (by decide) (uuid_reads r.owner) <|
    .here (by decide) (uuid_reads r.voucher) <| .here (by decide) (readDecimal_reads r.amount) <|
    .here (by decide) (instant_reads valid.appliedAt) <| .optional (by decide) ?remark <|
    .here (by decide) (status_reads r.status _) <|
    .here (by decide) (optInstant_reads valid.reversedAt) <| .optional_last ?reason
  case remark =>
    by_cases empty : r.remark.isEmpty
    · exact .inl ⟨if_pos empty, by simp [empty]⟩
    · exact .inr ⟨r.remark, Text.utf8 (Json.render (.str r.remark)).toList, if_neg empty,
        by simp [empty], readText_reads _ r.remark⟩
  case reason =>
    cases reason : r.reversalReason with
    | none => exact .inl ⟨rfl, by simp⟩
    | some text =>
      exact .inr ⟨some text, Text.utf8 (Json.render (.str text)).toList, rfl, by simp,
        readOption_str (readText_reads _ text)⟩

/-- Stored records are read one after the other, each opening with a brace. -/
theorem records_itemSteps {rs : List PaymentRecord} (valid : ∀ r ∈ rs, r.Valid) :
    ItemSteps src Wire.recordShape.read
      (rs.map fun r => Text.utf8 (Wire.recordJson r).render.toList) (rs.map Wire.recordValue) := by
  induction rs with
  | nil => exact .nil
  | cons r rs ih =>
    have reads : Reads Wire.recordShape.read src _ _ := record_reads r (valid r List.mem_cons_self)
    obtain ⟨tail, opens⟩ : ∃ tail, Text.utf8 (Wire.recordJson r).render.toList = 123 :: tail :=
      ⟨_, by rw [Wire.recordJson, render_obj_fieldsBytes]; rfl⟩
    rw [opens] at reads
    simp only [List.map_cons]
    rw [opens]
    exact .cons rfl (by decide) (by decide) reads
      (ih fun r' mem => valid r' (List.mem_cons_of_mem _ mem))

end Scan

namespace PaymentRecord

open Scan

theorem encodeColumn_bytes (rs : List PaymentRecord) :
    Text.utf8 (encodeColumn rs).toList =
      91 :: itemsBytes true (rs.map fun r => Text.utf8 (Wire.recordJson r).render.toList) ++
        [93] := by
  rw [encodeColumn, Json.render_arr_bytes, itemsBytes, if_pos rfl, List.map_map]
  simp only [Function.comp_def]

theorem decodeColumn_encodeColumn {rs : List PaymentRecord} (valid : ∀ r ∈ rs, r.Valid) :
    decodeColumn (some (encodeColumn rs)) = .ok (rs.map canonical) := by
  have notBlank : Text.isAsciiBlankOnly (encodeColumn rs) = false := by
    simp [Text.isAsciiBlankOnly, encodeColumn, Json.render]
  have reads : Reads Wire.recordsShape.read ⟨(encodeColumn rs).toUTF8, true⟩
      (Text.utf8 (encodeColumn rs).toList) (some (rs.map Wire.recordValue)) := by
    rw [encodeColumn_bytes]
    exact readOption_some rfl (by decide) (readList_reads (records_itemSteps valid))
  simp only [decodeColumn, notBlank, Bool.false_eq_true, if_false, Shape.decodeText,
    runText_of_reads reads]
  show Except.ok ((rs.map Wire.recordValue).map Wire.recordOf) = _
  simp only [List.map_map, Function.comp_def, Wire.recordOf_recordValue]

/-- Text of spaces, tabs, line ends and form feeds holds no records, though form feeds are no
blank space to a JSON reader. -/
theorem decodeColumn_blank {text : String}
    (blank : ∀ c ∈ text.toList, c = ' ' ∨ c = '\t' ∨ c = '\n' ∨ c = '\x0c' ∨ c = '\r') :
    decodeColumn (some text) = .ok [] := by
  have onlyBlank : Text.isAsciiBlankOnly text = true := by
    simp only [Text.isAsciiBlankOnly, List.all_eq_true]
    intro c mem
    rcases blank c mem with rfl | rfl | rfl | rfl | rfl <;> rfl
  simp [decodeColumn, onlyBlank]

/-- `null` with blank space around it holds no records either. -/
theorem decodeColumn_null_padded {text : String} {lead trail : List Char}
    (chars : text.toList = lead ++ "null".toList ++ trail) (blankLead : JsonBlank lead)
    (blankTrail : JsonBlank trail) :
    decodeColumn (some text) = .ok [] := by
  have notBlank : Text.isAsciiBlankOnly text = false :=
    List.all_eq_false.mpr ⟨'n', by simp [chars], by decide⟩
  have reads : Reads Wire.recordsShape.read ⟨text.toUTF8, true⟩
      (Text.utf8 lead ++ Text.utf8 (Json.render .null).toList) none :=
    readOption_null_over _ (isBlank_utf8 blankLead)
  have whole : Text.utf8 text.toList =
      (Text.utf8 lead ++ Text.utf8 (Json.render .null).toList) ++ Text.utf8 trail := by
    rw [chars, Text.utf8_append, Text.utf8_append, Json.render_null_bytes]
    rfl
  simp only [decodeColumn, notBlank, Bool.false_eq_true, if_false, Shape.decodeText,
    runText_of_reads_blank reads whole (isBlank_utf8 blankTrail)]
  rfl

theorem decodeColumn_null : decodeColumn (some "null") = .ok [] :=
  @decodeColumn_null_padded "null" [] [] (by decide) (List.forall_mem_nil _)
    (List.forall_mem_nil _)

example : decodeColumn (some " null\n") = .ok [] :=
  @decodeColumn_null_padded " null\n" [' '] ['\n'] (by decide) (by simp [JsonBlank])
    (by simp [JsonBlank])

theorem encodeColumn_nil : encodeColumn [] = "[]" := by decide

/-- A column whose first character past blank space is no blank itself and opens neither a
list nor `null` is refused with the reader's message. -/
theorem decodeColumn_refuses {text : String} {lead rest : List Char} {c : Char}
    (chars : text.toList = lead ++ c :: rest) (blankLead : JsonBlank lead)
    (notBlank : c ≠ ' ' ∧ c ≠ '\t' ∧ c ≠ '\n' ∧ c ≠ '\x0c' ∧ c ≠ '\r')
    (opens : c ≠ '[' ∧ c ≠ 'n') :
    ∃ e, decodeColumn (some text) = .error ("malformed payment records column: " ++ e) := by
  obtain ⟨space, tab, newline, formFeed, ret⟩ := notBlank
  obtain ⟨b, more, head, codes⟩ := Text.utf8EncodeChar_head c
  have byte : isBlank b = false ∧ b ≠ 91 ∧ b ≠ 110 := by
    have := codes ' ' (by decide) space
    have := codes '\t' (by decide) tab
    have := codes '\n' (by decide) newline
    have := codes '\r' (by decide) ret
    have := codes '[' (by decide) opens.1
    have := codes 'n' (by decide) opens.2
    simp only [isBlank, Bool.or_eq_false_iff, beq_eq_false_iff_ne, ne_eq, ← UInt8.toNat_inj]
    simp_all
  have notAsciiBlank : Text.isAsciiBlankOnly text = false := by
    have feed : c.toNat ≠ 12 := fun eq => formFeed (Char.toNat_inj.mp eq)
    exact List.all_eq_false.mpr ⟨c, by simp [chars], by simp [space, tab, newline, ret, feed]⟩
  have start : ScanSource.rest ⟨text.toUTF8, true⟩ 0 =
      Text.utf8 lead ++ b :: (more ++ Text.utf8 rest) := by
    simp [ScanSource.rest, Text.toByteArray_data, chars, head]
  have fails : Fails Wire.recordsShape.read ⟨text.toUTF8, true⟩ 0 :=
    readOption_fails start (isBlank_utf8 blankLead) byte.1 byte.2.2
      (readList_fails (rest_append start) byte.1 byte.2.1)
  obtain ⟨e, refused⟩ := runText_of_fails fails
  refine ⟨e, ?_⟩
  simp only [decodeColumn, notAsciiBlank, Bool.false_eq_true, if_false, Shape.decodeText, refused]
  rfl

/- A brace opens an object, which is no list of records, however it goes on. -/
example : ∃ e, decodeColumn (some "\x7bnot json") =
    .error ("malformed payment records column: " ++ e) :=
  @decodeColumn_refuses "\x7bnot json" [] "not json".toList '\x7b' (by decide)
    (List.forall_mem_nil _) (by decide) (by decide)

example : ∃ e, decodeColumn (some "\x7b\"id\":\"x\"\x7d") =
    .error ("malformed payment records column: " ++ e) :=
  @decodeColumn_refuses "\x7b\"id\":\"x\"\x7d" [] "\"id\":\"x\"\x7d".toList '\x7b' (by decide)
    (List.forall_mem_nil _) (by decide) (by decide)


theorem decodeColumn_error {column : Option String} {m : String}
    (failed : decodeColumn column = .error m) :
    ∃ text e, column = some text ∧ Wire.recordsShape.decodeText text = .error e ∧
      m = "malformed payment records column: " ++ e := by
  cases column with
  | none => cases failed
  | some text =>
    simp only [decodeColumn] at failed
    split at failed
    · cases failed
    · split at failed
      · cases failed
      · rename_i e decoded
        cases failed
        exact ⟨text, e, rfl, decoded, rfl⟩

/-- Records whose amounts carry no sign on zero read back exactly. -/
theorem decodeColumn_encodeColumn_self {rs : List PaymentRecord} (valid : ∀ r ∈ rs, r.Valid)
    (unsigned : ∀ r ∈ rs, r.amount.negative = true → r.amount.mantissa ≠ 0) :
    decodeColumn (some (encodeColumn rs)) = .ok rs := by
  rw [decodeColumn_encodeColumn valid]
  congr 1
  calc rs.map canonical = rs.map fun r => r :=
        List.map_congr_left fun r mem => canonical_eq_self (unsigned r mem)
    _ = rs := List.map_id' rs

theorem column_roundTrip :
    (∀ rs : List PaymentRecord, (∀ r ∈ rs, r.Valid) →
      decodeColumn (some (encodeColumn rs)) = .ok (rs.map canonical)) ∧
    decodeColumn none = .ok [] ∧
    (∀ text : String,
      (∀ c ∈ text.toList, c = ' ' ∨ c = '\t' ∨ c = '\n' ∨ c = '\x0c' ∨ c = '\r') →
        decodeColumn (some text) = .ok []) ∧
    decodeColumn (some "null") = .ok [] ∧
    encodeColumn [] = "[]" ∧
    (∀ column m, decodeColumn column = .error m →
      ∃ text e, column = some text ∧ Wire.recordsShape.decodeText text = .error e ∧
        m = "malformed payment records column: " ++ e) :=
  ⟨fun _ valid => decodeColumn_encodeColumn valid, rfl, fun _ blank => decodeColumn_blank blank,
    decodeColumn_null, encodeColumn_nil, fun _ _ failed => decodeColumn_error failed⟩

/-- A reversed record with a remark and a reason, reversed during the leap second that ended
2016. -/
def leapReversed : PaymentRecord :=
  ⟨⟨7, by decide⟩, ⟨8, by decide⟩, ⟨9, by decide⟩, ⟨12345, 2, false, by decide, by decide⟩,
    ⟨17166, 43200, 0⟩, "first instalment", .reversed, some ⟨17166, 86399, 1500000000⟩,
    some "duplicate"⟩

theorem column_roundTrip_leapReversed :
    (∀ r ∈ [leapReversed], r.Valid) ∧
      decodeColumn (some (encodeColumn [leapReversed])) = .ok [leapReversed.canonical] :=
  have valid : ∀ r ∈ [leapReversed], r.Valid := by
    intro r mem
    rw [List.mem_singleton.mp mem]
    exact ⟨⟨by decide, by decide, by decide, by decide, by decide⟩,
      fun t reversed => by
        cases Option.some.inj reversed
        exact ⟨by decide, by decide, by decide, by decide, by decide⟩⟩
  ⟨valid, column_roundTrip.1 [leapReversed] valid⟩

end PaymentRecord

end Subledger

