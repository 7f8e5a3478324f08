import Mathlib.Data.List.FinRange
import Mathlib.Data.List.Pairwise
import Mathlib.Algebra.Group.Nat.Basic

/-!
# IPv4 networks, as `netaddr` enumerates them

`NetworkScenarioTest._create_subnet` (`scenario/manager.py`) walks
`netaddr.IPNetwork(CONF.network.tenant_network_cidr).subnet(mask_bits)` and submits
`str(subnet_cidr)` for each block.  This module models the part of `netaddr` that loop
reads:

* an `IPNetwork` is an IPv4 address with a prefix length, both in range (the library
  refuses any other value, so an invalid one cannot be built here either);
* `subnet m` yields the `/m` blocks of the network in ascending address order, nothing
  when `m` is shorter than the network's own prefix, and raises when `m` is wider than
  the 32 bits of an IPv4 address: `ZeroDivisionError` once the float `2 ** (32 - m)`
  rounds to `0.0`, `AddrFormatError` on the first block before that;
* `str` is the `a.b.c.d/m` text of a block.
-/

namespace Tempest

/-- An IPv4 network as `netaddr.IPNetwork` holds it: the address it was given and its
prefix length. -/
structure IPNetwork where
  value : Nat
  prefixlen : Nat
  value_lt : value < 2 ^ 32
  prefixlen_le : prefixlen ≤ 32
  deriving DecidableEq

namespace IPNetwork

/-- The number of addresses of the network, `2 ^ (32 - prefixlen)`. -/
def size (n : IPNetwork) : Nat := 2 ^ (32 - n.prefixlen)

/-- `IPNetwork.first`: the network address, the given address with its host bits
cleared. -/
def first (n : IPNetwork) : Nat := n.value / n.size * n.size

/-- The dotted-quad text of an IPv4 address. -/
def ipStr (v : Nat) : String :=
  toString (v / 2 ^ 24 % 256) ++ "." ++ toString (v / 2 ^ 16 % 256) ++ "." ++
    toString (v / 2 ^ 8 % 256) ++ "." ++ toString (v % 256)

/-- `str(IPNetwork)`: `'%s/%d' % (ip, prefixlen)`. -/
def str (n : IPNetwork) : String := ipStr n.value ++ "/" ++ toString n.prefixlen

/-- A network holds at least one address. -/
theorem size_pos (n : IPNetwork) : 0 < n.size := Nat.two_pow_pos _

/-- The network, aligned at its first address, ends inside the IPv4 space. -/
theorem first_add_size_le (n : IPNetwork) : n.first + n.size ≤ 2 ^ 32 := by
  have hsz : 2 ^ 32 = 2 ^ n.prefixlen * n.size := by
    rw [size, ← Nat.pow_add, Nat.add_sub_cancel' n.prefixlen_le]
  have hq : n.value / n.size < 2 ^ n.prefixlen :=
    Nat.div_lt_of_lt_mul (by rw [Nat.mul_comm, ← hsz]; exact n.value_lt)
  calc n.first + n.size = (n.value / n.size + 1) * n.size := by rw [first, Nat.succ_mul]
    _ ≤ 2 ^ n.prefixlen * n.size := Nat.mul_le_mul_right _ hq
    _ = 2 ^ 32 := hsz.symm

/-- A network of prefix `p` splits into `2 ^ (m - p)` blocks of `2 ^ (32 - m)` addresses. -/
theorem size_eq_blocks (n : IPNetwork) {m : Nat} (hpm : n.prefixlen ≤ m) (hm : m ≤ 32) :
    n.size = 2 ^ (m - n.prefixlen) * 2 ^ (32 - m) := by
  rw [size, ← Nat.pow_add]; congr 1; omega

/-- The `i`-th `/m` block starts inside the network. -/
theorem block_lt (n : IPNetwork) {m : Nat} (hpm : n.prefixlen ≤ m) (hm : m ≤ 32)
    (i : Fin (2 ^ (m - n.prefixlen))) : n.first + i.val * 2 ^ (32 - m) < 2 ^ 32 := by
  have hi : i.val * 2 ^ (32 - m) < n.size := by
    rw [n.size_eq_blocks hpm hm]; exact Nat.mul_lt_mul_of_pos_right i.isLt (Nat.two_pow_pos _)
  have := n.first_add_size_le
  omega

/-- The `i`-th `/m` block of the network: `subnet.value += subnet.size * i` on the
network's first address. -/
def block (n : IPNetwork) (m : Nat) (hpm : n.prefixlen ≤ m) (hm : m ≤ 32)
    (i : Fin (2 ^ (m - n.prefixlen))) : IPNetwork where
  value := n.first + i.val * 2 ^ (32 - m)
  prefixlen := m
  value_lt := n.block_lt hpm hm i
  prefixlen_le := hm

/-- The exceptions `IPNetwork.subnet` raises for a prefix past 32 bits. -/
inductive SubnetError where
  /-- `AddrFormatError`: the first block's `'%s/%d'` text does not parse. -/
  | addrFormat
  /-- `ZeroDivisionError` from `max_subnets = 2 ** (width - self.prefixlen) //
  2 ** (width - prefixlen)`: for `prefixlen = 32 + k` the divisor is the double `2 ** -k`,
  which rounds to `0.0` from `k = 1075` on. -/
  | zeroDivision
  deriving DecidableEq, Repr

/-- `IPNetwork.subnet(prefixlen)`: the `/m` blocks in ascending order.  A prefix shorter
than the network's own ends the generator at once (`raise StopIteration`).  A prefix past
32 bits raises on the first iteration: `max_subnets` divides by `2 ** (32 - m)`, a float
that is `0.0` once `m - 32 ≥ 1075`; short of that the first `'%s/%d'` block is
unparseable. -/
def subnet (n : IPNetwork) (m : Nat) : Except SubnetError (List IPNetwork) :=
  if hpm : n.prefixlen ≤ m then
    if hm : m ≤ 32 then .ok ((List.finRange (2 ^ (m - n.prefixlen))).map (n.block m hpm hm))
    else if 1075 ≤ m - 32 then .error .zeroDivision else .error .addrFormat
  else .ok []

/-- **Ascending enumeration.** The blocks `subnet` yields are in strictly ascending
address order, so none is yielded twice. -/
theorem subnet_pairwise {n : IPNetwork} {m : Nat} {bs : List IPNetwork}
    (h : n.subnet m = .ok bs) : bs.Pairwise (fun a b => a.value < b.value) := by
  unfold subnet at h
  split_ifs at h with hpm hm <;> cases h
  · refine (List.pairwise_map).2 ((List.pairwise_lt_finRange _).imp fun hij => ?_)
    simp only [block]
    exact Nat.add_lt_add_left (Nat.mul_lt_mul_of_pos_right hij (Nat.two_pow_pos _)) _
  · exact List.Pairwise.nil

/-- Every block `subnet` yields has the requested prefix and lies inside the network. -/
theorem mem_subnet {n : IPNetwork} {m : Nat} {bs : List IPNetwork} {b : IPNetwork}
    (h : n.subnet m = .ok bs) (hb : b ∈ bs) :
    b.prefixlen = m ∧ n.first ≤ b.value ∧ b.value < n.first + n.size := by
  unfold subnet at h
  split_ifs at h with hpm hm <;> cases h
  · obtain ⟨i, -, rfl⟩ := List.mem_map.1 hb
    refine ⟨rfl, Nat.le_add_right _ _, ?_⟩
    simp only [block, n.size_eq_blocks hpm hm]
    exact Nat.add_lt_add_left (Nat.mul_lt_mul_of_pos_right i.isLt (Nat.two_pow_pos _)) _
  · cases hb

/-- `subnet` raises exactly when the requested prefix is wider than an IPv4 address, and
which exception it raises depends on the prefix alone. -/
theorem subnet_eq_error_iff (n : IPNetwork) (m : Nat) (e : SubnetError) :
    n.subnet m = .error e ↔
      32 < m ∧ e = if 1075 ≤ m - 32 then .zeroDivision else .addrFormat := by
  have := n.prefixlen_le
  by_cases hm : m ≤ 32
  · unfold subnet; split_ifs <;> simp <;> omega
  · rw [subnet, dif_pos (by omega), dif_neg hm]
    split_ifs <;> simp [eq_comm] <;> omega

/-- A prefix shorter than the network's own yields no block. -/
theorem subnet_of_lt {n : IPNetwork} {m : Nat} (h : m < n.prefixlen) : n.subnet m = .ok [] := by
  unfold subnet
  rw [dif_neg (by omega)]

/-- `subnet m` yields at most `2 ^ (m - prefixlen)` blocks. -/
theorem length_subnet_le {n : IPNetwork} {m : Nat} {bs : List IPNetwork}
    (h : n.subnet m = .ok bs) : bs.length ≤ 2 ^ (m - n.prefixlen) := by
  unfold subnet at h
  split_ifs at h <;> cases h <;> simp

/-- **The blocks tile the network.**  For a prefix from the network's own up to 32 bits,
every address of the network lies in exactly one of the `/m` blocks `subnet` yields. -/
theorem subnet_tiles {n : IPNetwork} {m : Nat} {bs : List IPNetwork} (h : n.subnet m = .ok bs)
    (hpm : n.prefixlen ≤ m) {a : Nat} (ha₁ : n.first ≤ a) (ha₂ : a < n.first + n.size) :
    ∃! b, b ∈ bs ∧ b.value ≤ a ∧ a < b.value + 2 ^ (32 - m) := by
  unfold subnet at h
  split_ifs at h with hm
  cases h
  have hs : 0 < 2 ^ (32 - m) := Nat.two_pow_pos _
  have hi : (a - n.first) / 2 ^ (32 - m) < 2 ^ (m - n.prefixlen) :=
    Nat.div_lt_of_lt_mul (by rw [Nat.mul_comm, ← n.size_eq_blocks hpm hm]; omega)
  refine ⟨n.block m hpm hm ⟨_, hi⟩, ⟨List.mem_map.2 ⟨_, List.mem_finRange _, rfl⟩, ?_, ?_⟩, ?_⟩
  · have := Nat.div_mul_le_self (a - n.first) (2 ^ (32 - m))
    simp only [block]; omega
  · have := Nat.lt_div_mul_add (a := a - n.first) hs
    simp only [block]; omega
  · rintro b ⟨hb, hlo, hhi⟩
    obtain ⟨j, -, rfl⟩ := List.mem_map.1 hb
    simp only [block] at hlo hhi
    have hj : (a - n.first) / 2 ^ (32 - m) = j.val :=
      Nat.div_eq_of_lt_le (by omega) (by rw [Nat.add_mul, Nat.one_mul]; omega)
    rw [show j = ⟨_, hi⟩ from Fin.ext hj.symm]

end IPNetwork

/-- The pool `10.100.0.0/16`. -/
def samplePool : IPNetwork := ⟨174325760, 16, by decide, by decide⟩

example : samplePool.subnet 33 = .error .addrFormat := rfl

example : samplePool.subnet 1107 = .error .zeroDivision := rfl

/-- The address `10.100.200.1` lies in one `/17` block of `10.100.0.0/16`. -/
theorem subnet_tiles_sample :
    ∃ bs, samplePool.subnet 17 = .ok bs ∧ samplePool.prefixlen ≤ 17 ∧
      samplePool.first ≤ 174376961 ∧ 174376961 < samplePool.first + samplePool.size ∧
      ∃! b, b ∈ bs ∧ b.value ≤ 174376961 ∧ 174376961 < b.value + 2 ^ (32 - 17) :=
  ⟨_, rfl, by decide, by decide, by decide,
    @IPNetwork.subnet_tiles samplePool 17 _ rfl (by decide) 174376961 (by decide) (by decide)⟩

end Tempest
