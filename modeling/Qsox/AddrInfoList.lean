import Qsox.LinkedList
import Qsox.Resolver

/-! `findAndConvert` on the list in memory that `gai` hands out: what is read of it,
and where it is freed. An entry and the `sockaddr` it points to are read and freed
together. -/

namespace Qsox

open StringView

namespace Resolver

def bytesAt (start : ℕ) {size : ℕ} (fits : start + size ≤ 28) (addr : SockAddr) :
    Vector UInt8 size :=
  Vector.ofFn fun i =>
    addr.get ⟨start + i.val, lt_of_lt_of_le (Nat.add_lt_add_left i.isLt start) fits⟩

theorem sinAddr_fits : 4 + 4 ≤ 28 := by decide

theorem sin6Addr_fits : 8 + 16 ≤ 28 := by decide

/-- The address whose octets are the bytes of `sin_addr`. -/
def sinAddr (addr : SockAddr) : Ipv4Address := ⟨bytesAt 4 sinAddr_fits addr⟩

def sin6Addr (addr : SockAddr) : Ipv6Address := ⟨bytesAt 8 sin6Addr_fits addr⟩

/-- Swapping the loaded bits and taking them apart gives the bytes in order. -/
theorem ipv4OfSockAddr_eq_sinAddr : ipv4OfSockAddr = sinAddr := by
  funext addr
  rw [ipv4OfSockAddr_eq, sinAddr, Ipv4Address.eq_ofOctets ⟨bytesAt 4 sinAddr_fits addr⟩]
  simp only [bytesAt, Vector.getElem_ofFn]
  rfl

theorem ipv6OfSockAddr_eq_sin6Addr : ipv6OfSockAddr = sin6Addr := rfl

end Resolver

namespace AddrInfoList

open Resolver LinkedList

/-- `gai`, which leaves its list in memory. -/
abbrev Gai := Text → ℤ → ℤ → Prog AddrInfo (Except Resolver.Error Ptr)

def findFirstAddress (rounds : ℕ) (list : Ptr) (family : ℤ) : Prog AddrInfo Ptr :=
  find (fun ai => ai.family = family) rounds list

/-- `!qaddr || !qaddr->ai_addr`. -/
def lacksAddress (qaddr : Ptr) : Prog AddrInfo Bool :=
  if qaddr = 0 then pure true
  else do
    let cell ← read qaddr
    return cell.content.addr.isNone

def readSockAddr (qaddr : Ptr) : Prog AddrInfo SockAddr := do
  let cell ← read qaddr
  StateT.lift cell.content.addr

def findAndConvert {Ip : Type} (rounds : ℕ) (family : ℤ) (convert : SockAddr → Ip) (gai : Gai)
    (hostname : Text) (timeoutMs : ℤ) : Prog AddrInfo (Except Resolver.Error Ip) := do
  match ← gai hostname family timeoutMs with
  | .error e => return .error e
  | .ok addrInfo =>
    let qaddr ← findFirstAddress rounds addrInfo family
    let lacks ← lacksAddress qaddr
    if lacks then
      free addrInfo
      return .error .noData
    else
      let addr ← readSockAddr qaddr
      let address := convert addr
      free addrInfo
      return .ok address

section
variable {m : Memory AddrInfo} {handed : Handed AddrInfo} (live : m.handed = some handed)
include live

theorem run_lacksAddress {qaddr : Ptr} {entry : Option AddrInfo}
    (found : Found handed.cells qaddr entry) :
    ∃ reads, (lacksAddress qaddr).run m =
      some ((entry.bind AddrInfo.addr).isNone, m.reading reads) := by
  cases found with
  | null =>
    refine ⟨[], ?_⟩
    rw [Memory.reading_nil]
    rfl
  | here pos there =>
    refine ⟨[qaddr], ?_⟩
    rw [lacksAddress, if_neg pos, run_bind_of_eq (run_read live there)]
    rfl

theorem run_readSockAddr {qaddr : Ptr} {cell : Cell AddrInfo} {addr : SockAddr}
    (there : handed.cells qaddr = some cell) (carried : cell.content.addr = some addr) :
    (readSockAddr qaddr).run m = some (addr, m.reading [qaddr]) := by
  rw [readSockAddr, run_bind_of_eq (run_read live there), carried]
  rfl

end

section
variable {Ip : Type} {gai : Gai} {hostname : Text} {family timeoutMs : ℤ} {m m' : Memory AddrInfo}
  {rounds : ℕ} (convert : SockAddr → Ip)

theorem run_findAndConvert_error {e : Resolver.Error}
    (refused : (gai hostname family timeoutMs).run m = some (.error e, m')) :
    (findAndConvert rounds family convert gai hostname timeoutMs).run m = some (.error e, m') := by
  rw [findAndConvert, run_bind_of_eq refused]
  rfl

theorem run_findAndConvert {head : Ptr} {list : List AddrInfo}
    (answered : (gai hostname family timeoutMs).run m = some (.ok head, m'))
    (holds : m'.Holds head list) (enough : list.length < rounds) :
    ∃ reads, (findAndConvert rounds family convert gai hostname timeoutMs).run m =
      some (pick family convert (.ok list), (m'.reading reads).freed head) := by
  obtain ⟨cells, live, chain⟩ := holds
  obtain ⟨qaddr, searched, found, which⟩ :=
    run_find live chain (fun ai => ai.family = family) enough
  obtain ⟨looked, tested⟩ := run_lacksAddress (m := m'.reading searched) live which
  rw [Memory.reading_reading] at tested
  rw [findAndConvert, run_bind_of_eq answered]
  dsimp only
  rw [findFirstAddress, run_bind_of_eq found, run_bind_of_eq tested, pick]
  cases carried : (list.find? fun ai => ai.family = family).bind AddrInfo.addr with
  | none =>
    have freed := run_free (m := m'.reading (searched ++ looked)) live
    refine ⟨searched ++ looked, ?_⟩
    rw [Option.isNone_none, if_pos rfl, run_bind_of_eq freed]
    rfl
  | some addr =>
    generalize list.find? (fun ai => ai.family = family) = entry at which carried
    cases which with
    | null => cases carried
    | @here _ cell pos there =>
      have bytes := run_readSockAddr (m := m'.reading (searched ++ looked)) live there carried
      rw [Memory.reading_reading] at bytes
      have freed := run_free (m := m'.reading (searched ++ looked ++ [qaddr])) live
      refine ⟨searched ++ looked ++ [qaddr], ?_⟩
      rw [Option.isNone_some, if_neg Bool.false_ne_true, run_bind_of_eq bytes,
        run_bind_of_eq freed]
      rfl

def Delivers (m : Memory AddrInfo) (returned : Except Resolver.Error Ptr)
    (answer : Except Resolver.Error (List AddrInfo)) : Prop :=
  match returned, answer with
  | .error e, .error e' => e = e'
  | .ok head, .ok list => m.Holds head list
  | _, _ => False

/-- The result is that of `Resolver.findAndConvert` over the list itself. -/
theorem findAndConvert_refines {σ : Type}
    {answers : Text → ℤ → Except Resolver.Error (List AddrInfo)}
    {returned : Except Resolver.Error Ptr}
    (answered : (gai hostname family timeoutMs).run m = some (returned, m'))
    (delivers : Delivers m' returned (answers hostname family))
    (enough : ∀ list, answers hostname family = .ok list → list.length < rounds) (dns : Dns σ) :
    ∃ last, (findAndConvert rounds family convert gai hostname timeoutMs).run m =
      some ((Resolver.findAndConvert family convert (answering answers) hostname timeoutMs dns).1,
        last) := by
  rw [Yields.findAndConvert answers family convert hostname timeoutMs dns]
  cases answer : answers hostname family with
  | error e =>
    rw [answer] at delivers
    cases returned with
    | ok head => exact delivers.elim
    | error e' =>
      obtain rfl : e' = e := delivers
      exact ⟨m', run_findAndConvert_error convert answered⟩
  | ok list =>
    rw [answer] at delivers
    cases returned with
    | error e => exact delivers.elim
    | ok head =>
      obtain ⟨reads, run⟩ := run_findAndConvert convert answered delivers (enough list answer)
      exact ⟨_, run⟩

/-- Either conversion gives the bytes of the first entry of the family; the list is
freed once, after everything that is read of it. -/
theorem selected_then_freed {head : Ptr} {list : List AddrInfo}
    (answered : (gai hostname family timeoutMs).run m = some (.ok head, m'))
    (holds : m'.Holds head list) (enough : list.length < rounds) :
    (∃ reads : List Ptr, (findAndConvert rounds family ipv4OfSockAddr gai hostname timeoutMs).run m =
      some (pick family sinAddr (.ok list),
        ⟨none, m'.accesses ++ reads.map .read ++ [.free head]⟩)) ∧
    ∃ reads : List Ptr, (findAndConvert rounds family ipv6OfSockAddr gai hostname timeoutMs).run m =
      some (pick family sin6Addr (.ok list),
        ⟨none, m'.accesses ++ reads.map .read ++ [.free head]⟩) := by
  rw [ipv4OfSockAddr_eq_sinAddr, ipv6OfSockAddr_eq_sin6Addr]
  exact ⟨run_findAndConvert sinAddr answered holds enough,
    run_findAndConvert sin6Addr answered holds enough⟩

end

def twoEntries : Ptr → Option (Cell AddrInfo)
  | 1 => some ⟨⟨afInet6, none⟩, 2⟩
  | 2 => some ⟨⟨afInet, some #v[2, 0, 0, 0, 192, 0, 2, 1, 0, 0, 0, 0, 0, 0, 0, 0, 0, 0, 0, 0, 0, 0, 0,
      0, 0, 0, 0, 0]⟩, 0⟩
  | _ => none

def twoEntriesGai : Gai := fun _ _ _ m => some (.ok 1, ⟨some ⟨1, twoEntries⟩, m.accesses⟩)

theorem second_entry_selected_then_freed : ∃ reads : List Ptr,
    (findAndConvert 3 afInet ipv4OfSockAddr twoEntriesGai [] 0).run ⟨none, []⟩ =
      some (.ok (.ofOctets 192 0 2 1), ⟨none, [] ++ reads.map .read ++ [.free 1]⟩) := by
  have chain : Chain twoEntries 1 _ :=
    .cons (by decide) rfl (.cons (by decide) rfl .nil)
  have answered : (twoEntriesGai [] afInet 0).run ⟨none, []⟩ =
      some (.ok 1, ⟨some ⟨1, twoEntries⟩, []⟩) := rfl
  exact (selected_then_freed answered ⟨twoEntries, rfl, chain⟩ (by decide : 2 < 3)).1

end AddrInfoList
end Qsox
