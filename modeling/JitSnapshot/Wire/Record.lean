import JitSnapshot.Arena
import JitSnapshot.Wire.Codec

set_option autoImplicit false

/-!
The wire format of the records and of a whole arena: the fields one after
another, then the eight lists one after another.
-/

namespace JitSnapshot.Wire

open Codec

def address : Codec Address :=
  uint64.iso Address.mk Address.raw

def ident (kind : IdKind) : Codec (Id kind) :=
  uint32.iso Id.mk Id.raw

def flags (kind : FlagKind) : Codec (Flags kind) :=
  uint8.iso Flags.mk Flags.bits

def range (kind : ListKind) : Codec (ListRange kind) :=
  (uint32.pair uint32).iso (fun (start, len) => ⟨start, len⟩)
    (fun range => (range.start, range.len))

def node : Codec NodeRecord :=
  (address.pair <| address.pair <| address.pair <| address.pair <|
    (ident .body).option.pair <| (ident .runtime).option.pair <|
    (range .guards).pair <| (range .slots).pair <| (range .slots).pair <|
    (range .typeSpecs).pair <| (range .typeSpecs).pair <|
    (ident .node).option.pair <| (ident .localFunction).pair <| flags .node).iso
    (fun (functionInfo, weakRef, inlineeBits, callCounter, body, runtime, sharedGuards,
        inlinees, fieldInlinees, typeSpecs, globalTypeSpecs, next, localFunction, flags) =>
      { functionInfo, weakRef, inlineeBits, callCounter, body, runtime, sharedGuards,
        inlinees, fieldInlinees, typeSpecs, globalTypeSpecs, next, localFunction, flags })
    (fun node =>
      (node.functionInfo, node.weakRef, node.inlineeBits, node.callCounter, node.body,
        node.runtime, node.sharedGuards, node.inlinees, node.fieldInlinees, node.typeSpecs,
        node.globalTypeSpecs, node.next, node.localFunction, node.flags))

def body : Codec BodyRecord :=
  (address.pair <| (ident .sourceContext).pair <| (ident .functionNumber).pair <|
    uint16.pair <| uint32.pair <| (flags .body).pair <| text.pair <|
    (ident .profile).option).iso
    (fun (address, sourceContext, functionNumber, callSiteCount, cacheCount, flags,
        displayName, profile) =>
      { address, sourceContext, functionNumber, callSiteCount, cacheCount, flags,
        displayName, profile })
    (fun body =>
      (body.address, body.sourceContext, body.functionNumber, body.callSiteCount,
        body.cacheCount, body.flags, body.displayName, body.profile))

def runtime : Codec RuntimeRecord :=
  (range .addresses).iso RuntimeRecord.mk RuntimeRecord.clonedCaches

def profile : Codec ProfileRecord :=
  uint64.list.iso ProfileRecord.mk ProfileRecord.words

def typeSpec : Codec TypeSpecRecord :=
  uint64.list.iso TypeSpecRecord.mk TypeSpecRecord.words

def arena : Codec Arena :=
  (node.array.pair <| body.array.pair <| runtime.array.pair <| profile.array.pair <|
    (ident .node).option.array.pair <| address.array.pair <| (ident .property).array.pair <|
    typeSpec.option.array).iso
    (fun (nodes, bodies, runtimes, profiles, slots, addresses, guards, typeSpecs) =>
      { nodes, bodies, runtimes, profiles, slots, addresses, guards, typeSpecs })
    (fun arena =>
      (arena.nodes, arena.bodies, arena.runtimes, arena.profiles, arena.slots,
        arena.addresses, arena.guards, arena.typeSpecs))

end JitSnapshot.Wire
