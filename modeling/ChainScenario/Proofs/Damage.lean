import ChainScenario.Proofs.Codec

/-!
# Damaged values are noticed

A reader that succeeds would have read the same if more bytes had followed, although lengths and
numbers of items are compared with the bytes that are left (`steady_holding`, `steady_roles`). A value
that was cut is therefore not read at all: put back together, it would have been read too early. Main
statement: `damage_noticed`.
-/
namespace ChainScenario.Token

namespace Codec

variable {α β : Type}

/-! ## Bytes behind a value -/

/-- Bytes behind the input of a reader that succeeds are left over, and change nothing else. -/
def Steady (reader : Reader α) : Prop :=
  ∀ ⦃input rest : Bytes⦄ ⦃value : α⦄, reader input = some (value, rest) →
    ∀ behind, reader (input ++ behind) = some (value, rest ++ behind)

theorem steady_pure (value : α) : Steady (pure value) := by
  intro input rest read taken behind
  cases some_pure.1 taken
  rfl

theorem steady_failure : Steady (failure : Reader α) := by
  intro input rest value taken
  simp at taken

theorem steady_lift (given : Option α) : Steady (liftM given : Reader α) := by
  intro input rest value taken behind
  cases given with
  | none => cases taken
  | some given =>
    cases taken
    rfl

theorem Steady.bind {first : Reader α} {next : α → Reader β} (before : Steady first)
    (after : ∀ value, Steady (next value)) : Steady (first >>= next) := by
  intro input rest value taken behind
  obtain ⟨given, middle, start, tail⟩ := some_bind.1 taken
  exact some_bind.2 ⟨given, middle ++ behind, before start behind, after given tail behind⟩

theorem Steady.map {reader : Reader α} (steady : Steady reader) (f : α → β) :
    Steady (f <$> reader) := by
  intro input rest value taken behind
  obtain ⟨⟨given, left⟩, start, same⟩ := Option.bind_eq_some_iff.1 taken
  cases same
  change (reader (input ++ behind)).bind (fun read => some (f read.1, read.2)) = _
  rw [steady start behind]
  rfl

/-- The bytes of a number say themselves where it ends. -/
theorem readFrom_append {position value : Nat} {input rest : Bytes}
    (read : Varint.readFrom position input = some (value, rest)) (behind : Bytes) :
    Varint.readFrom position (input ++ behind) = some (value, rest ++ behind) := by
  -- By induction on the bytes; an input that ends early was not read.
  induction input generalizing position value with
  | nil => simp [Varint.readFrom] at read
  | cons byte tail ih =>
    simp only [List.cons_append, Varint.readFrom] at read ⊢
    split at read <;> rename_i final
    · rw [if_pos final]
      split at read <;> rename_i padded
      · cases read
      · cases read
        rw [if_neg padded]
    · rw [if_neg final]
      split at read <;> rename_i full
      · cases read
      · obtain ⟨⟨high, last⟩, deeper, same⟩ := Option.map_eq_some_iff.1 read
        cases same
        rw [if_neg full, ih deeper]
        rfl

theorem steady_number : Steady number := by
  intro input rest value taken behind
  obtain ⟨⟨found, left⟩, read, same⟩ := Option.map_eq_some_iff.1 taken
  cases same
  exact Option.map_eq_some_iff.2 ⟨(found, rest ++ behind), readFrom_append read behind, rfl⟩

/-- A length that fits the bytes that are left fits more of them. -/
theorem steady_length : Steady Codec.length := by
  intro input rest value taken behind
  simp only [Codec.length, some_bind] at taken ⊢
  obtain ⟨count, middle, counted, left, last, got, judged⟩ := taken
  cases got
  refine ⟨count, middle ++ behind, steady_number counted behind, _, _, rfl, ?_⟩
  split at judged <;> rename_i room
  · cases some_pure.1 judged
    have more : count.toNat ≤ (rest ++ behind).length := by
      rw [List.length_append]
      omega
    rw [if_pos more]
    rfl
  · simp at judged

theorem steady_bytes : Steady Codec.bytes := by
  intro input rest value taken behind
  simp only [Codec.bytes, some_bind] at taken ⊢
  obtain ⟨count, middle, counted, read⟩ := taken
  have room := (small_of_length counted).2.1
  cases read
  refine ⟨count, middle ++ behind, steady_length counted behind, ?_⟩
  change some ((middle ++ behind).take count, (middle ++ behind).drop count) = _
  rw [List.take_append_of_le_length room, List.drop_append_of_le_length room]

theorem steady_byteStrings (count : Nat) : Steady (byteStrings count) := by
  induction count with
  | zero => exact steady_pure []
  | succ count ih => exact steady_bytes.bind fun _ => ih.bind fun _ => steady_pure _

theorem steady_byteList : Steady byteList := steady_length.bind steady_byteStrings

end Codec

open Codec

theorem steady_metadata : Steady Metadata.reader :=
  steady_number.bind fun _ => steady_bytes.bind fun _ => steady_bytes.bind fun _ =>
    steady_number.bind fun _ => steady_bytes.bind fun _ => steady_byteList.bind fun _ =>
      steady_bytes.bind fun _ => steady_pure _

theorem steady_holding : Steady Holding.reader := by
  refine steady_number.bind fun _ => (steady_lift _).bind fun _ => steady_bytes.bind fun _ =>
    steady_bytes.bind fun _ => steady_number.bind fun flag => ?_
  -- The flag decides whether metadata follows.
  split
  · exact (steady_pure none).bind fun _ => steady_pure _
  · exact (steady_metadata.map some).bind fun _ => steady_pure _
  · exact steady_failure.bind fun _ => steady_pure _

theorem steady_roles : Steady rolesReader := steady_byteList

/-! ## Damage -/

/-- Damage to stored bytes is noticed: a part of them from the front is no value, and with bytes behind
them they are not read as a whole. -/
structure Guarded {α : Type} (reader : Codec.Reader α) (stored : Bytes) : Prop where
  cut : ∀ front, front <+: stored → front ≠ stored → readAll reader front = .error .malformed
  extended : ∀ extra, extra ≠ [] →
    readAll reader (stored ++ extra) = .error (.trailing extra.length)

section Guarded

variable {α : Type} {reader : Codec.Reader α} {written : Bytes} {value : α}

theorem readAll_append (reads : Reads reader written value) {extra : Bytes} (more : extra ≠ []) :
    readAll reader (written ++ extra) = .error (.trailing extra.length) := by
  obtain ⟨first, rest, rfl⟩ := List.exists_cons_of_ne_nil more
  rw [readAll, reads]

/-- A value that was cut is not even read in part: the bytes that were cut off would have been left over
from the whole. -/
theorem readAll_cut (reads : Reads reader written value) (steady : Steady reader) {front : Bytes}
    (part : front <+: written) (proper : front ≠ written) :
    readAll reader front = .error .malformed := by
  obtain ⟨behind, rfl⟩ := part
  cases taken : reader front with
  | none => rw [readAll, taken]
  | some read =>
    obtain ⟨early, rest⟩ := read
    have whole := reads []
    rw [List.append_nil, steady taken behind, Option.some.injEq, Prod.mk.injEq,
      List.append_eq_nil_iff] at whole
    obtain ⟨-, -, rfl⟩ := whole
    exact absurd (List.append_nil front).symm proper

theorem guarded_of_reads (reads : Reads reader written value) (steady : Steady reader) :
    Guarded reader written :=
  ⟨fun _ part proper => readAll_cut reads steady part proper, fun _ more => readAll_append reads more⟩

/-- Of two values one of which is written at the front of the other, the other is the same. -/
theorem eq_of_reads {other : Bytes} {second : α} (reads : Reads reader written value)
    (others : Reads reader other second) (front : written <+: other) : second = value := by
  obtain ⟨behind, rfl⟩ := front
  have whole := others []
  rw [List.append_nil, reads behind] at whole
  cases whole
  rfl

end Guarded

/-- All lengths in a list of roles are numbers of 64 bits. -/
structure RolesFit (roles : List Bytes) : Prop where
  few : roles.length < UInt64.size
  short : ∀ role ∈ roles, role.length < UInt64.size

/-- Damaged token data is noticed. No part of a stored holding or list of roles from the front is read,
down to no bytes at all, and neither is it with bytes behind it; so none is stored as the front of another
one. -/
theorem damage_noticed {holding : Holding} (fits : holding.Fits) {roles : List Bytes}
    (rolesFit : RolesFit roles) :
    Guarded Holding.reader holding.write ∧ Guarded rolesReader (writeRoles roles) ∧
      (∀ other : Holding, other.Fits → holding.write <+: other.write → other = holding) ∧
      ∀ others, RolesFit others → writeRoles roles <+: writeRoles others → others = roles := by
  have holds := reads_holding fits
  have lists := reads_roles rolesFit.few rolesFit.short
  refine ⟨guarded_of_reads holds steady_holding, guarded_of_reads lists steady_roles, ?_, ?_⟩
  · intro other otherFits front
    exact eq_of_reads holds (reads_holding otherFits) front
  · intro others othersFit front
    exact eq_of_reads lists (reads_roles othersFit.few othersFit.short) front

/-- The instance is refused without its last byte, its only attribute, and with one byte more;
the roles are refused with no byte left, and do not stand at the front of a longer list. -/
theorem damage_noticed_postcard : postcard.Fits ∧ RolesFit [[], [114]] ∧
    readAll Holding.reader postcard.write.dropLast = .error .malformed ∧
    readAll Holding.reader (postcard.write ++ [0]) = .error (.trailing 1) ∧
    readAll rolesReader [] = .error .malformed ∧
    ¬writeRoles [[], [114]] <+: writeRoles [[], [114], [115]] := by
  have fits : postcard.Fits := by
    refine ⟨by decide +kernel, by decide +kernel, ?_⟩
    rintro _ ⟨⟩
    exact ⟨by decide, by decide, by decide, by decide, by decide, by decide⟩
  have rolesFit : RolesFit [[], [114]] := ⟨by decide, by decide⟩
  obtain ⟨instances, lists, -, apart⟩ := damage_noticed fits rolesFit
  refine ⟨fits, rolesFit, instances.cut _ (List.dropLast_prefix _) (by decide +kernel),
    instances.extended _ (by decide), lists.cut _ List.nil_prefix (by decide +kernel), ?_⟩
  intro front
  exact absurd (apart _ ⟨by decide, by decide⟩ front) (by decide)

end ChainScenario.Token
