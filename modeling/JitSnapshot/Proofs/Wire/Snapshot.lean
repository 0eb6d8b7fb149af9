import JitSnapshot.Proofs.Tree.Walk
import JitSnapshot.Proofs.Wire.Codec
import JitSnapshot.Wire.Snapshot

set_option autoImplicit false

/-!
Snapshots and their bytes. The codec of an arena is put together from exact
ones, so it is exact for every arena whose lists and texts have a length that
can be written. What is decoded behind the encoding of a snapshot is then the
snapshot itself, judged as it stands, and nothing else decodes to it. No
encoding is the front of another, whatever the snapshots are.
-/

namespace JitSnapshot

/-- All lengths in the arena are words of eight bytes, as in any memory they are. -/
structure Arena.Countable (arena : Arena) : Prop where
  nodes : arena.nodes.size < UInt64.size
  bodies : arena.bodies.size < UInt64.size
  runtimes : arena.runtimes.size < UInt64.size
  profiles : arena.profiles.size < UInt64.size
  slots : arena.slots.size < UInt64.size
  addresses : arena.addresses.size < UInt64.size
  guards : arena.guards.size < UInt64.size
  typeSpecs : arena.typeSpecs.size < UInt64.size
  names : ∀ body ∈ arena.bodies, body.displayName.utf8ByteSize < UInt64.size
  profileWords : ∀ profile ∈ arena.profiles, profile.words.length < UInt64.size
  typeSpecWords : ∀ slot ∈ arena.typeSpecs, ∀ typeSpec ∈ slot,
    typeSpec.words.length < UInt64.size

namespace Wire

open Codec

/-! ### Records -/

private theorem address_exact : address.Exact fun _ => True :=
  uint64_exact.rename (fun _ => rfl) (fun _ => rfl)

private theorem ident_exact (kind : IdKind) : (ident kind).Exact fun _ => True :=
  uint32_exact.rename (fun _ => rfl) (fun _ => rfl)

private theorem flags_exact (kind : FlagKind) : (flags kind).Exact fun _ => True :=
  uint8_exact.rename (fun _ => rfl) (fun _ => rfl)

private theorem range_exact (kind : ListKind) : (range kind).Exact fun _ => True :=
  ((uint32_exact.pair uint32_exact).rename (fun _ => rfl) (fun _ => rfl)).congr
    fun _ => by simp only [and_self]

private theorem optionalIdent_exact (kind : IdKind) : (ident kind).option.Exact fun _ => True :=
  (option_exact (ident_exact kind)).congr fun _ => by simp only [implies_true]

private theorem words_exact : uint64.list.Exact fun words => words.length < UInt64.size :=
  (list_exact uint64_exact).congr fun _ => by simp only [implies_true, and_true]

private theorem node_exact : node.Exact fun _ => True :=
  ((address_exact.pair <| address_exact.pair <| address_exact.pair <| address_exact.pair <|
    (optionalIdent_exact _).pair <| (optionalIdent_exact _).pair <|
    (range_exact _).pair <| (range_exact _).pair <| (range_exact _).pair <|
    (range_exact _).pair <| (range_exact _).pair <|
    (optionalIdent_exact _).pair <| (ident_exact _).pair <| flags_exact _).rename
      (fun _ => rfl) (fun _ => rfl)).congr fun _ => by simp only [and_self]

private theorem body_exact : body.Exact fun body => body.displayName.utf8ByteSize < UInt64.size :=
  ((address_exact.pair <| (ident_exact _).pair <| (ident_exact _).pair <|
    uint16_exact.pair <| uint32_exact.pair <| (flags_exact _).pair <| text_exact.pair <|
    optionalIdent_exact _).rename (fun _ => rfl) (fun _ => rfl)).congr
      fun _ => by simp only [true_and, and_true]

private theorem runtime_exact : runtime.Exact fun _ => True :=
  (range_exact _).rename (fun _ => rfl) (fun _ => rfl)

private theorem profile_exact : profile.Exact fun profile => profile.words.length < UInt64.size :=
  words_exact.rename (fun _ => rfl) (fun _ => rfl)

private theorem typeSpec_exact :
    typeSpec.Exact fun typeSpec => typeSpec.words.length < UInt64.size :=
  words_exact.rename (fun _ => rfl) (fun _ => rfl)

private theorem arena_exact : arena.Exact Arena.Countable := by
  have lists := (array_exact node_exact).pair <| (array_exact body_exact).pair <|
    (array_exact runtime_exact).pair <| (array_exact profile_exact).pair <|
    (array_exact (optionalIdent_exact .node)).pair <| (array_exact address_exact).pair <|
    (array_exact (ident_exact .property)).pair <| array_exact (option_exact typeSpec_exact)
  refine (lists.rename (fun _ => rfl) (fun _ => rfl)).congr fun arena => ?_
  simp only [implies_true, and_true]
  constructor
  · intro ⟨nodes, ⟨bodies, names⟩, runtimes, ⟨profiles, profileWords⟩, slots, addresses,
      guards, typeSpecs, typeSpecWords⟩
    exact { nodes, bodies, runtimes, profiles, slots, addresses, guards, typeSpecs, names,
            profileWords, typeSpecWords }
  · intro fits
    exact ⟨fits.nodes, ⟨fits.bodies, fits.names⟩, fits.runtimes,
      ⟨fits.profiles, fits.profileWords⟩, fits.slots, fits.addresses, fits.guards,
      fits.typeSpecs, fits.typeSpecWords⟩

theorem header_exact : header.Exact fun header => header.magic.length = 4 :=
  (((bytes_exact 4).pair (uint16_exact.pair uint32_exact)).rename
    (fun _ => rfl) (fun _ => rfl)).congr fun _ => by simp only [and_true]

theorem snapshot_exact : snapshot.Exact fun snapshot => snapshot.arena.Countable :=
  (((ident_exact .node).pair arena_exact).rename (fun _ => rfl) (fun _ => rfl)).congr
    fun _ => by simp only [true_and]

theorem Header.check_eq_ok_iff {header : Header} :
    header.check = .ok () ↔ header = .current := by
  unfold check
  constructor
  · intro passed
    split at passed
    · cases passed
    · split at passed
      · cases passed
      · split at passed
        · cases passed
        · rename_i magic version layout
          exact Header.mk.injEq .. ▸ ⟨not_not.mp magic, not_not.mp version, not_not.mp layout⟩
  · rintro rfl
    rfl

end Wire

namespace Snapshot

variable {snapshot : Snapshot} {bytes : List UInt8}

/-- Bytes that start with an encoding are decoded to the very snapshot, if it is valid. -/
private theorem decode_encode_append (countable : snapshot.arena.Countable)
    (trailing : List UInt8) :
    decode (snapshot.encode ++ trailing) =
      match snapshot.arena.validate snapshot.root with
      | .error fault => .error (.malformed fault)
      | .ok _ => .ok snapshot := by
  have readHeader : Wire.header.read (snapshot.encode ++ trailing) =
      .ok (.current, Wire.snapshot.write snapshot ++ trailing) := by
    rw [encode, List.append_assoc]
    exact Wire.header_exact.read_write rfl _
  have checked : Wire.Header.current.check = .ok () := Wire.Header.check_eq_ok_iff.mpr rfl
  have readSnapshot := Wire.snapshot_exact.read_write countable trailing
  cases verdict : snapshot.arena.validate snapshot.root <;>
    simp only [decode, readHeader, checked, readSnapshot, verdict]

theorem decode_eq_ok_iff :
    decode bytes = .ok snapshot ↔
      snapshot.arena.Countable ∧
        (∃ count, snapshot.arena.validate snapshot.root = .ok count) ∧
          snapshot.encode <+: bytes := by
  constructor
  · intro decoded
    unfold decode at decoded
    split at decoded
    · cases decoded
    · rename_i header payload readHeader
      split at decoded
      · cases decoded
      · rename_i checked
        split at decoded
        · cases decoded
        · rename_i found trailing readSnapshot
          split at decoded
          · cases decoded
          · rename_i count valid
            cases decoded
            obtain ⟨_, rfl⟩ := (Wire.header_exact _ _ _).mp readHeader
            obtain ⟨countable, rfl⟩ := (Wire.snapshot_exact _ _ _).mp readSnapshot
            rw [Wire.Header.check_eq_ok_iff.mp checked]
            exact ⟨countable, ⟨count, valid⟩, trailing, List.append_assoc _ _ _⟩
  · rintro ⟨countable, ⟨count, valid⟩, trailing, rfl⟩
    rw [decode_encode_append countable, valid]

/-- What is decoded behind any encoding is the snapshot that was encoded, if its root is
that of a well-formed tree, and else the error found in it. -/
theorem decode_encode_verdict (countable : snapshot.arena.Countable) (trailing : List UInt8) :
    (∃ count, snapshot.arena.validate snapshot.root = .ok count ∧
        decode (snapshot.encode ++ trailing) = .ok snapshot) ∨
      ∃ error, snapshot.arena.validate snapshot.root = .error (.shape error) ∧
        decode (snapshot.encode ++ trailing) = .error (.malformed (.shape error)) := by
  rw [decode_encode_append countable]
  cases verdict : snapshot.arena.validate snapshot.root with
  | ok count => exact Or.inl ⟨count, rfl, rfl⟩
  | error fault =>
      obtain ⟨error, rfl⟩ := Arena.validate_fault verdict
      exact Or.inr ⟨error, rfl, rfl⟩

/-- A named function, and one that is its own candidate. All eight lists have entries,
and a flag has no name. -/
def namedAndLooped : Arena :=
  { nodes := #[
      { body := some ⟨0⟩, runtime := some ⟨0⟩, sharedGuards := ⟨0, 2⟩, typeSpecs := ⟨0, 1⟩,
        fieldInlinees := ⟨0, 1⟩, flags := ⟨0x81⟩ },
      { body := some ⟨1⟩, runtime := some ⟨1⟩, next := some ⟨1⟩ }]
    bodies := #[{ cacheCount := 1, displayName := "größe", profile := some ⟨0⟩ }, {}]
    runtimes := #[{ clonedCaches := ⟨0, 1⟩ }, {}]
    profiles := #[{ words := [7, 0, 1] }]
    slots := #[none]
    addresses := #[⟨64⟩]
    guards := #[⟨3⟩, ⟨2⟩]
    typeSpecs := #[some { words := [8] }] }

theorem countable_namedAndLooped : namedAndLooped.Countable :=
  { nodes := by decide
    bodies := by decide
    runtimes := by decide
    profiles := by decide
    slots := by decide
    addresses := by decide
    guards := by decide
    typeSpecs := by decide
    names := by decide +kernel
    profileWords := by decide
    typeSpecWords := by decide }

theorem decode_encode_verdict_namedAndLooped :
    namedAndLooped.Countable ∧
      decode (encode { root := ⟨0⟩, arena := namedAndLooped } ++ [255]) =
          .ok { root := ⟨0⟩, arena := namedAndLooped } ∧
        decode (encode { root := ⟨1⟩, arena := namedAndLooped } ++ [255]) =
          .error (.malformed (.shape (.sharedNode ⟨1⟩))) := by
  have valid : namedAndLooped.validate ⟨0⟩ = .ok 1 := by decide +kernel
  have looped : namedAndLooped.validate ⟨1⟩ = .error (.shape (.sharedNode ⟨1⟩)) := by
    decide +kernel
  have countable (root : NodeId) : (Snapshot.mk root namedAndLooped).arena.Countable :=
    countable_namedAndLooped
  refine ⟨countable_namedAndLooped, ?_, ?_⟩
  · rcases decode_encode_verdict (countable ⟨0⟩) [255] with ⟨_, _, decoded⟩ | ⟨_, refused, _⟩
    · exact decoded
    · rw [valid] at refused
      cases refused
  · rcases decode_encode_verdict (countable ⟨1⟩) [255] with
      ⟨_, accepted, _⟩ | ⟨_, refused, decoded⟩
    · rw [looped] at accepted
      cases accepted
    · rw [looped] at refused
      cases refused
      exact decoded

/-- What decodes starts with the encoding of a valid snapshot, and the same snapshot is
decoded from just those bytes that start alike. -/
theorem decode_only_canonical (decoded : decode bytes = .ok snapshot) :
    (∃ count, snapshot.arena.validate snapshot.root = .ok count) ∧
      snapshot.encode <+: bytes ∧
        ∀ other, decode other = .ok snapshot ↔ snapshot.encode <+: other := by
  obtain ⟨countable, valid, starts⟩ := decode_eq_ok_iff.mp decoded
  refine ⟨valid, starts, fun other => ?_⟩
  rw [decode_eq_ok_iff, and_iff_right countable, and_iff_right valid]

/-- One node without a body, as the bytes of a whole snapshot and one byte more. -/
def loneNodeBytes : List UInt8 :=
  [79, 74, 84, 83, 1, 0, 104, 0, 0, 0] ++ List.replicate 4 0 ++
    [1, 0, 0, 0, 0, 0, 0, 0] ++ [16, 0, 0, 0, 0, 0, 0, 0] ++ List.replicate 24 0 ++
      [0, 0] ++ List.replicate 40 0 ++ [0] ++ [9, 0, 0, 0, 4] ++ List.replicate 56 0 ++ [255]

def loneNode : Arena :=
  { nodes := #[{ functionInfo := ⟨16⟩, localFunction := ⟨9⟩, flags := ⟨4⟩ }] }

theorem decode_only_canonical_loneNode :
    decode loneNodeBytes = .ok { root := ⟨0⟩, arena := loneNode } ∧
      encode { root := ⟨0⟩, arena := loneNode } = loneNodeBytes.dropLast ∧
        decode loneNodeBytes.dropLast = .ok { root := ⟨0⟩, arena := loneNode } := by
  have decoded : decode loneNodeBytes = .ok { root := ⟨0⟩, arena := loneNode } := by
    decide +kernel
  have bytes : encode { root := ⟨0⟩, arena := loneNode } = loneNodeBytes.dropLast := by
    decide +kernel
  obtain ⟨_, _, alike⟩ := decode_only_canonical decoded
  exact ⟨decoded, bytes, (alike _).mpr (bytes ▸ List.prefix_rfl)⟩

/-- No encoding is the front of another snapshot's, be the snapshots valid or not. -/
theorem encode_prefix_free {other : Snapshot} (countable : snapshot.arena.Countable)
    (countableOther : other.arena.Countable) (starts : snapshot.encode <+: other.encode) :
    snapshot = other := by
  have payloads : Wire.snapshot.write snapshot <+: Wire.snapshot.write other :=
    (List.prefix_append_right_inj _).mp starts
  exact Wire.snapshot_exact.prefix_free countable countableOther payloads

/-- The same arena, with its guards appended last. -/
def regrown : Arena :=
  { namedAndLooped with guards := Array.appendList #[] [⟨3⟩, ⟨2⟩] }

/-- The root is that of a cycle, so neither snapshot is valid. -/
theorem encode_prefix_free_regrown :
    regrown.Countable ∧ namedAndLooped.Countable ∧
      encode { root := ⟨1⟩, arena := regrown } <+: encode { root := ⟨1⟩, arena := namedAndLooped } ∧
        Snapshot.mk ⟨1⟩ regrown = ⟨⟨1⟩, namedAndLooped⟩ := by
  have countable : regrown.Countable := { countable_namedAndLooped with guards := by decide }
  have starts : encode { root := ⟨1⟩, arena := regrown } <+:
      encode { root := ⟨1⟩, arena := namedAndLooped } := by
    decide +kernel
  exact ⟨countable, countable_namedAndLooped, starts,
    encode_prefix_free countable countable_namedAndLooped starts⟩

end Snapshot

end JitSnapshot
