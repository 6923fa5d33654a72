import SoftRouter.Proofs.Buffer.Pipeline
import SoftRouter.Proofs.Forwarding
import SoftRouter.Proofs.Learning

/-!
# No frame makes the router fault

Whatever frames came before, the bytes of the next one and the ticks are handled over buffers without a fault. The
table that a started process advertises fits a buffer: what it learns is limited by the number of networks, and what
it is connected to by the memory that its interfaces take.
-/

namespace SoftRouter

namespace Router

/-- The number of bytes that an interface takes in memory, at the least. -/
def interfaceSize : Nat := 64

/-- The table of a running process is short enough to be advertised. -/
theorem few_entries {interfaces : InterfaceTable} {routes : RouteTable} {r : Router}
    (created : make interfaces routes = .ok r) (memory : interfaces.size * interfaceSize < Checked.wordEnd)
    (xs : List (Nat × Stimulus)) : RipBuffer.Sendable (r.run xs).1.rip (r.run xs).1.routes := by
  intro running
  have started : (r.run xs).1.rip ≠ .idle := by
    rw [running]
    decide
  obtain ⟨learned, learning⟩ := run_learns created xs started
  have known := RouteTable.length_learned_le learning
  have same : (r.run xs).1.interfaces = interfaces := by rw [run_interfaces, eq_of_make created]
  have few : interfaces.toList.length < 2 ^ 58 := by
    unfold Keyed.size interfaceSize Checked.wordEnd at memory
    omega
  rw [learning.entries, List.length_append, List.length_map, same, RipBuffer.maxEntries]
  omega

/-- After every run, at least fourteen bytes are handled without a fault, on whatever interface they come in, and so are
both ticks. Each does to the router what it does with the values that the bytes stand for, and hands the bytes of what
it sends to the drivers. The interfaces have to fit into memory. -/
theorem never_faults {interfaces : InterfaceTable} {routes : RouteTable} {r : Router}
    (created : make interfaces routes = .ok r) (memory : interfaces.size * interfaceSize < Checked.wordEnd)
    (xs : List (Nat × Stimulus)) (now : Nat) :
    (∀ (interface : String) (bytes : Bytes), 14 ≤ bytes.length →
      ∃ frame, EthernetFrame.decode bytes = .ok frame ∧ Buffered.handle (r.run xs).1 now interface bytes =
        .ok (((r.run xs).1.handle now interface frame).1, wires ((r.run xs).1.handle now interface frame).2)) ∧
    (∀ order, Buffered.arpTick (r.run xs).1 now order =
      .ok (((r.run xs).1.arpTick now order).1, wires ((r.run xs).1.arpTick now order).2)) ∧
    Buffered.ripTick (r.run xs).1 now =
      .ok (((r.run xs).1.ripTick now).1, wires ((r.run xs).1.ripTick now).2) := by
  have few := few_entries created memory xs
  refine ⟨?_, Buffered.arpTick_eq _ now, Buffered.ripTick_eq few now⟩
  intro interface bytes long
  obtain ⟨frame, read⟩ := EthernetFrame.exists_decode long
  refine ⟨frame, read, ?_⟩
  rw [← EthernetFrame.encode_of_decode read]
  exact Buffered.handle_eq few now interface frame

/-- Once the gateway has made itself known, a datagram for it is aged and goes out. Nothing comes of its first bytes
alone. -/
theorem forwards_over_buffers :
    (∃ s, Buffered.handle (gatewayRouter.run [(0, .frame gatewayReply)]).1 1 toSecond.interface toSecond.frame.encode =
      .ok (s, [((datagramTo "eth1" (station 1) (station 2) (.ofOctets 8 8 8 8)).resolved (station 9)).wire])) ∧
    ∃ s, Buffered.handle (gatewayRouter.run [(0, .frame gatewayReply)]).1 1 toSecond.interface
      (toSecond.frame.encode.take 40) =
      .ok (s, []) := by
  have created : make twoPorts sharedGateway = .ok gatewayRouter := gatewayRouter_created
  have memory : twoPorts.size * interfaceSize < Checked.wordEnd := by decide
  have handled := (never_faults created memory [(0, .frame gatewayReply)] 1).1 toSecond.interface
  constructor
  · obtain ⟨frame, read, done⟩ := handled toSecond.frame.encode (by decide)
    rw [EthernetFrame.decode_encode] at read
    cases read
    have forwards : (gatewayRouter.run [(0, .frame gatewayReply)]).1.Forwards toSecond
        (datagramTo "eth1" (station 1) (station 2) (.ofOctets 8 8 8 8)) :=
      ⟨_, datagram (.ofOctets 8 8 8 8), rfl, by decide +kernel, by decide +kernel⟩
    have known : (gatewayRouter.run [(0, .frame gatewayReply)]).1.arp.mac?
        (datagramTo "eth1" (station 1) (station 2) (.ofOctets 8 8 8 8)).nextHop = some (station 9) := by decide +kernel
    have step := (handle_of_forwards forwards 1).trans (dispatch_known known 1)
    rw [respond] at step
    rw [step] at done
    exact ⟨_, done⟩
  · obtain ⟨frame, read, done⟩ := handled (toSecond.frame.encode.take 40) (by decide)
    have cut : EthernetFrame.decode (toSecond.frame.encode.take 40) =
        .ok { toSecond.frame with payload := toSecond.frame.payload.take 26 } := by decide +kernel
    rw [cut] at read
    cases read
    have nothing : wires ((gatewayRouter.run [(0, .frame gatewayReply)]).1.handle 1 toSecond.interface
        { toSecond.frame with payload := toSecond.frame.payload.take 26 }).2 = [] := by decide +kernel
    rw [nothing] at done
    exact ⟨_, done⟩

end Router

end SoftRouter
