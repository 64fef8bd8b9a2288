/-
Name lookup through the three front ends (`ip_name_lookup` in `tls-virt-guest/src/lib.rs`,
`main.rs` and `p2.rs`).

The guest component and the 0.3 provider see a resolution at once: the delegated lookup
gives the whole list, and an opted-in name gets one handle for it. The 0.2 provider wraps
a `resolve-address-stream` instead. Its state sits in a side map from call to call, and any
call may be cut short by would-block or an error of the delegated stream.

A call of the wrapped stream asks the delegated one again and again; the results it got
are the action's argument, in order, and the loop runs over them. So a schedule is any
behaviour of the delegated stream, and a call that would not return is one without an
enabled action.

The contract (`wrapped_stream_refines`) is a refinement: whatever the delegated stream
returns, and however it is interrupted, the guest sees its errors and its end and nothing
else, and at the end it sees what 0.3 would have returned for the addresses seen before
it.
-/
import Mathlib.Data.Set.Finite.Basic
import PolymorphTls.Lts
import PolymorphTls.Sockets

set_option autoImplicit false

namespace PolymorphTls.Resolve

/-! ## The front ends -/

/-- What `resolve-next-address` returns, of the delegated stream and of the wrapped one. -/
abbrev Next := Except ErrorCode (Option IpAddress)

/-- `resolve_addresses` of 0.3, and of the guest component; `host` is the delegated lookup
and `suffix` the random bytes of the handle. -/
def resolve_addresses (names : HandleTable) (suffix : Fin 8 → UInt8) (name : String)
    (host : String → Except ErrorCode (List IpAddress)) :
    Except ErrorCode (List IpAddress) × HandleTable :=
  match strip_suffix name with
  | some real =>
      match host real with
      | .error err => (.error err, names)
      | .ok addrs =>
          if addrs = [] then (.error .NameUnresolvable, names)
          else
            let (handle, names) := names.mint suffix ⟨real, addrs.map ip_to_std⟩
            (.ok [handle_to_ip handle], names)
  | none => (host name, names)

/-- A suffix-opted 0.2 resolution being drained through the wrapped stream. -/
inductive P2Resolve where
  | Draining (hostname : String) (addrs : List IpAddr)
  | Yielded
  deriving DecidableEq

/-- What of `VirtCtx` a lookup touches; `p2_resolves` is keyed by the stream's index. -/
structure Virt where
  names : HandleTable
  p2_resolves : ℕ → Option P2Resolve

/-- The map changed at one index. -/
def Virt.setResolve (virt : Virt) (rep : ℕ) (state : Option P2Resolve) : Virt :=
  { virt with p2_resolves := Function.update virt.p2_resolves rep state }

/-- 0.2's `resolve_addresses`; `host` is the delegated lookup, with the index of the stream
it opens. -/
def P2.resolve_addresses (virt : Virt) (name : String) (host : String → Except ErrorCode ℕ) :
    Except ErrorCode ℕ × Virt :=
  match strip_suffix name with
  | some real =>
      match host real with
      | .error e => (.error e, virt)
      | .ok inner => (.ok inner, virt.setResolve inner (some (.Draining real [])))
  | none => (host name, virt)

/-- The loop of `resolve_next_address` over the delegated stream's results: what it returns
and the results it did not ask for. -/
def nextLoop (rep : ℕ) (suffix : Fin 8 → UInt8) :
    Virt → List Next → Option (Next × Virt × List Next)
  | _, [] => none
  | virt, .error e :: rest => some (.error e, virt, rest)
  | virt, .ok next :: rest =>
      match virt.p2_resolves rep with
      | none => some (.ok next, virt, rest)
      | some (.Draining hostname addrs) =>
          match next with
          | some addr =>
              nextLoop rep suffix
                (virt.setResolve rep (some (.Draining hostname (addrs ++ [ip_to_std addr]))))
                rest
          | none =>
              let virt := virt.setResolve rep (some .Yielded)
              if addrs = [] then some (.error .NameUnresolvable, virt, rest)
              else
                let (handle, names) := virt.names.mint suffix ⟨hostname, addrs⟩
                some (.ok (some (handle_to_ip handle)), { virt with names }, rest)
      | some .Yielded => some (.ok none, virt, rest)

/-- `resolve_next_address`, when the delegated stream returns exactly the given results to
it. -/
def resolve_next_address (virt : Virt) (rep : ℕ) (suffix : Fin 8 → UInt8)
    (delegated : List Next) : Option (Next × Virt) :=
  match virt.p2_resolves rep with
  | none =>
      match delegated with
      | [next] => some (next, virt)
      | _ => none
  | some _ =>
      match nextLoop rep suffix virt delegated with
      | some (next, virt, []) => some (next, virt)
      | _ => none

/-! ## The system -/

/-- Ghost: the call in which the delegated stream first reported its end. -/
structure Ending where
  before : HandleTable
  suffix : Fin 8 → UInt8
  result : Next
  after : HandleTable

/-- Ghost: the life of one open stream. -/
structure Log where
  name : String
  /-- What the delegated stream returned, in order. -/
  delegated : List Next
  /-- What the guest got, in order. -/
  results : List Next
  ending : Option Ending

/-- The provider's state with the lives of its open streams beside it. The code keeps no
log; the contract is a statement about it. -/
structure Sys where
  virt : Virt
  /-- Ghost: the open streams, by index. -/
  streams : ℕ → Option Log
  /-- Ghost: the handles given to guests with the resolution each stands for, newest
  first. -/
  minted : List (IpAddress × Entry)

/-- `VirtCtx::new`, given the random bytes of the prefix. -/
def Sys.init (random : Fin 8 → UInt8) : Sys := ⟨⟨.new random, fun _ => none⟩, fun _ => none, []⟩

/-- A lookup through either generation, and what is done with an open stream. -/
inductive Act where
  /-- A lookup through the guest component or 0.3. -/
  | resolve (suffix : Fin 8 → UInt8) (name : String)
      (host : Except ErrorCode (List IpAddress))
  /-- A lookup through 0.2, whose stream gets the index `rep` if it is opened. -/
  | opens (rep : ℕ) (name : String) (host : Except ErrorCode Unit)
  /-- `resolve-next-address` on an open stream. -/
  | next (rep : ℕ) (suffix : Fin 8 → UInt8) (delegated : List Next)
  | drop (rep : ℕ)

/-- The addresses a delegated stream returned before its end. -/
def addresses : List Next → List IpAddress
  | [] => []
  | .error _ :: rest => addresses rest
  | .ok (some addr) :: rest => addr :: addresses rest
  | .ok none :: _ => []

/-- What a call adds to the handles given out for a resolution. -/
def noted (name : String) (addrs : List IpAddress) : Except ErrorCode (List IpAddress) →
    List (IpAddress × Entry)
  | .error _ => []
  | .ok handles =>
      match strip_suffix name with
      | none => []
      | some real => handles.map fun handle => (handle, ⟨real, addrs.map ip_to_std⟩)

/-- A result of the wrapped stream in the terms of 0.3. -/
def asList (result : Next) : Except ErrorCode (List IpAddress) := result.map Option.toList

/-- The log after one more call. -/
def Log.after (log : Log) (before after : HandleTable) (suffix : Fin 8 → UInt8)
    (delegated : List Next) (result : Next) : Log :=
  { log with
    delegated := log.delegated ++ delegated
    results := log.results ++ [result]
    ending :=
      if log.ending.isNone ∧ .ok none ∈ delegated then some ⟨before, suffix, result, after⟩
      else log.ending }

/-- A step. A call on a stream uses up the results the delegated stream has for it, so the
schedule says with each call how many that is. -/
def step (s : Sys) : Act → Option Sys
  | .resolve suffix name host =>
      let (result, names) := resolve_addresses s.virt.names suffix name fun _ => host
      let addrs := match host with | .ok addrs => addrs | .error _ => []
      some { s with virt.names := names, minted := noted name addrs result ++ s.minted }
  | .opens rep name host =>
      match s.streams rep with
      | some _ => none
      | none =>
          match P2.resolve_addresses s.virt name fun _ => host.map fun _ => rep with
          | (.error _, virt) => some { s with virt }
          | (.ok rep, virt) =>
              some { s with
                virt
                streams := Function.update s.streams rep (some ⟨name, [], [], none⟩) }
  | .next rep suffix delegated =>
      match s.streams rep with
      | none => none
      | some log =>
          match resolve_next_address s.virt rep suffix delegated with
          | none => none
          | some (result, virt) =>
              let log' := log.after s.virt.names virt.names suffix delegated result
              some { s with
                virt
                streams := Function.update s.streams rep (some log')
                minted := noted log.name (addresses log'.delegated) (asList result) ++ s.minted }
  | .drop rep =>
      match s.streams rep with
      | none => none
      | some _ =>
          some { s with
            virt := s.virt.setResolve rep none
            streams := Function.update s.streams rep none }

/-- Every step with its guard. A stream that was opened for a plain name has no entry in the
map, and is left to the wrapped stream. -/
inductive Trans (s : Sys) : Act → Sys → Prop where
  | resolve {suffix : Fin 8 → UInt8} {name : String}
      {host : Except ErrorCode (List IpAddress)} :
      Trans s (.resolve suffix name host)
        { s with
          virt.names := (resolve_addresses s.virt.names suffix name fun _ => host).2
          minted := noted name (match host with | .ok addrs => addrs | .error _ => [])
            (resolve_addresses s.virt.names suffix name fun _ => host).1 ++ s.minted }
  | refused {rep : ℕ} {name : String} {e : ErrorCode} : Trans s (.opens rep name (.error e)) s
  | opensPlain {rep : ℕ} {name : String} (hfree : s.streams rep = none)
      (hname : strip_suffix name = none) :
      Trans s (.opens rep name (.ok ()))
        { s with streams := Function.update s.streams rep (some ⟨name, [], [], none⟩) }
  | opensWrapped {rep : ℕ} {name real : String} (hfree : s.streams rep = none)
      (hname : strip_suffix name = some real) :
      Trans s (.opens rep name (.ok ()))
        { s with
          virt := s.virt.setResolve rep (some (.Draining real []))
          streams := Function.update s.streams rep (some ⟨name, [], [], none⟩) }
  | next {rep : ℕ} {suffix : Fin 8 → UInt8} {delegated : List Next} {log : Log} {result : Next}
      {virt : Virt} (hlog : s.streams rep = some log)
      (h : resolve_next_address s.virt rep suffix delegated = some (result, virt)) :
      Trans s (.next rep suffix delegated)
        { s with
          virt
          streams := Function.update s.streams rep
            (some (log.after s.virt.names virt.names suffix delegated result))
          minted := noted log.name (addresses (log.delegated ++ delegated)) (asList result)
            ++ s.minted }
  | drop {rep : ℕ} {log : Log} (hlog : s.streams rep = some log) :
      Trans s (.drop rep)
        { s with
          virt := s.virt.setResolve rep none
          streams := Function.update s.streams rep none }

/-- **Inversion.** Every step is one of the listed transitions. -/
theorem trans_of_step {s s' : Sys} {a : Act} (h : step s a = some s') : Trans s a s' := by
  cases a with
  | resolve suffix name host =>
      simp only [step, Option.some.injEq] at h
      rw [← h]
      exact .resolve
  | opens rep name host =>
      cases hfree : s.streams rep with
      | some log => simp [step, hfree] at h
      | none =>
          cases host with
          | error e =>
              cases hname : strip_suffix name <;>
              · simp only [step, hfree, P2.resolve_addresses, hname, Except.map,
                  Option.some.injEq] at h
                rw [← h]
                exact .refused
          | ok u =>
              cases hname : strip_suffix name with
              | none =>
                  simp only [step, hfree, P2.resolve_addresses, hname, Except.map,
                    Option.some.injEq] at h
                  rw [← h]
                  exact .opensPlain hfree hname
              | some real =>
                  simp only [step, hfree, P2.resolve_addresses, hname, Except.map,
                    Option.some.injEq] at h
                  rw [← h]
                  exact .opensWrapped hfree hname
  | next rep suffix delegated =>
      cases hlog : s.streams rep with
      | none => simp [step, hlog] at h
      | some log =>
          cases hcall : resolve_next_address s.virt rep suffix delegated with
          | none => simp [step, hlog, hcall] at h
          | some called =>
              obtain ⟨result, virt⟩ := called
              simp only [step, hlog, hcall, Option.some.injEq] at h
              rw [← h]
              exact .next hlog hcall
  | drop rep =>
      cases hlog : s.streams rep with
      | none => simp [step, hlog] at h
      | some log =>
          simp only [step, hlog, Option.some.injEq] at h
          rw [← h]
          exact .drop hlog

/-! ## The contract -/

/-- What the guest should see of a delegated stream: its errors, and at its end the
outcome; afterwards errors and ends. -/
def visible (outcome : Option Next) : List Next → List Next
  | [] => []
  | .error e :: rest => .error e :: visible outcome rest
  | .ok (some _) :: rest => visible outcome rest
  | .ok none :: rest => outcome.toList ++ rest.map (Except.map fun _ => none)

/-- The address a result hands to the guest. -/
def handed : Next → Option IpAddress
  | .ok (some addr) => some addr
  | _ => none

/-- The handle 0.3 would mint, and the table with it, for the hostname and the addresses
the delegated stream returned before its end. -/
def Ending.minting (e : Ending) (real : String) (log : Log) : Ipv6Addr × HandleTable :=
  e.before.mint e.suffix ⟨real, (addresses log.delegated).map ip_to_std⟩

/-- **A wrapped stream refines the 0.3 lookup.** What 0.3 returns at once as a list, 0.2
spreads over calls on a stream; the delegated one is drained first, and its addresses stay
inside. -/
structure Refines (log : Log) (real : String) : Prop where
  /-- The guest sees the delegated errors and ends, and no delegated address. -/
  results : log.results = visible (log.ending.map Ending.result) log.delegated
  at_most_one : (log.results.filterMap handed).length ≤ 1
  /-- An address the guest sees is the handle minted at the end of the delegated stream,
  for the stripped name and all delegated addresses in order. -/
  handle : ∀ addr, .ok (some addr) ∈ log.results → .ok none ∈ log.delegated ∧
    ∃ e, log.ending = some e ∧ e.result = .ok (some addr) ∧
      addr = handle_to_ip (e.minting real log).1 ∧ e.after = (e.minting real log).2
  /-- What 0.3 returns for the same name and addresses, the table and the random bytes
  being the same. -/
  agrees : ∀ e, log.ending = some e →
    resolve_addresses e.before e.suffix log.name (fun _ => .ok (addresses log.delegated))
      = (asList e.result, e.after)
  ended : log.ending.isSome ↔ .ok none ∈ log.delegated

/-- The contract of the wrapped streams: each open one refines the 0.3 lookup, and each
call returns if its delegated stream holds finitely many addresses. -/
structure WrapsStreams (s : Sys) : Prop where
  refines : ∀ rep log real, s.streams rep = some log → strip_suffix log.name = some real →
    Refines log real
  terminates : ∀ rep log suffix (delegated : ℕ → Next), s.streams rep = some log →
    {i | ∃ addr, delegated i = .ok (some addr)}.Finite →
    ∃ n, (step s (.next rep suffix ((List.range n).map delegated))).isSome

/-! ## What the delegated results say -/

/-- Before its end, a stream goes on where it was. -/
theorem addresses_append {d d' : List Next} (h : .ok none ∉ d) :
    addresses (d ++ d') = addresses d ++ addresses d' := by
  induction d with
  | nil => rfl
  | cons next d ih =>
      rw [List.mem_cons, not_or] at h
      have htail := ih h.2
      match next with
      | .error e => exact htail
      | .ok (some addr) => rw [List.cons_append, addresses, addresses, htail, List.cons_append]
      | .ok none => exact absurd rfl h.1

/-- After the end nothing is added. -/
theorem addresses_append_of_ended {d : List Next} (d' : List Next) (h : .ok none ∈ d) :
    addresses (d ++ d') = addresses d := by
  induction d with
  | nil => exact absurd h List.not_mem_nil
  | cons next d ih =>
      rw [List.cons_append]
      match next with
      | .error e =>
          rw [addresses, addresses]
          exact ih (by simpa using h)
      | .ok (some addr) =>
          rw [addresses, addresses, ih (by simpa using h)]
      | .ok none => rfl

/-- The same for what the guest sees. -/
theorem visible_append {o : Option Next} {d d' : List Next} (h : .ok none ∉ d) :
    visible o (d ++ d') = visible o d ++ visible o d' := by
  induction d with
  | nil => rfl
  | cons next d ih =>
      rw [List.mem_cons, not_or] at h
      have htail := ih h.2
      match next with
      | .error e => rw [List.cons_append, visible, visible, htail, List.cons_append]
      | .ok (some addr) => exact htail
      | .ok none => exact absurd rfl h.1

/-- After the end, only errors and ends are added. -/
theorem visible_append_of_ended {o : Option Next} {d : List Next} (d' : List Next)
    (h : .ok none ∈ d) :
    visible o (d ++ d') = visible o d ++ d'.map (Except.map fun _ => none) := by
  induction d with
  | nil => exact absurd h List.not_mem_nil
  | cons next d ih =>
      rw [List.cons_append]
      match next with
      | .error e =>
          rw [visible, visible, ih (by simpa using h), List.cons_append]
      | .ok (some addr) =>
          rw [visible, visible]
          exact ih (by simpa using h)
      | .ok none => rw [visible, visible, List.map_append, List.append_assoc]

/-- Before the end the outcome does not matter. -/
theorem visible_of_not_ended (o o' : Option Next) {d : List Next} (h : .ok none ∉ d) :
    visible o d = visible o' d := by
  induction d with
  | nil => rfl
  | cons next d ih =>
      rw [List.mem_cons, not_or] at h
      have htail := ih h.2
      match next with
      | .error e => rw [visible, visible, htail]
      | .ok (some addr) => exact htail
      | .ok none => exact absurd rfl h.1

/-- Only the outcome can hand an address to the guest. -/
theorem handed_visible (o : Option Next) (d : List Next) :
    (visible o d).filterMap handed = [] ∨
      (visible o d).filterMap handed = o.toList.filterMap handed := by
  induction d with
  | nil => exact .inl rfl
  | cons next d ih =>
      match next with
      | .error e => exact ih
      | .ok (some addr) => exact ih
      | .ok none =>
          right
          have hrest : (d.map (Except.map fun _ => none)).filterMap handed = [] := by
            rw [List.filterMap_map, List.filterMap_eq_nil_iff]
            intro next hmem
            cases next <;> rfl
          rw [visible, List.filterMap_append, hrest, List.append_nil]

/-! ## One call -/

theorem Virt.setResolve_setResolve (virt : Virt) (rep : ℕ) (a b : Option P2Resolve) :
    (virt.setResolve rep a).setResolve rep b = virt.setResolve rep b := by
  simp only [setResolve, Function.update_idem]

@[simp] theorem Virt.setResolve_self (virt : Virt) (rep : ℕ) (a : Option P2Resolve) :
    (virt.setResolve rep a).p2_resolves rep = a := Function.update_self _ _ _

/-- The others are as they were. -/
theorem Virt.setResolve_of_ne (virt : Virt) {rep r : ℕ} (a : Option P2Resolve) (h : r ≠ rep) :
    (virt.setResolve rep a).p2_resolves r = virt.p2_resolves r := Function.update_of_ne h _ _

/-- What a call does that reaches the end of the delegated stream with the given entry. -/
inductive Yields (virt : Virt) (rep : ℕ) (suffix : Fin 8 → UInt8) (hostname : String)
    (addrs : List IpAddr) : Next → Virt → Prop where
  | unresolvable (h : addrs = []) :
      Yields virt rep suffix hostname addrs (.error .NameUnresolvable)
        (virt.setResolve rep (some .Yielded))
  | handle (h : addrs ≠ []) :
      Yields virt rep suffix hostname addrs
        (.ok (some (handle_to_ip (virt.names.mint suffix ⟨hostname, addrs⟩).1)))
        { virt.setResolve rep (some .Yielded) with
          names := (virt.names.mint suffix ⟨hostname, addrs⟩).2 }

/-- A call on a draining stream: it is interrupted, keeping the addresses it got, or it
reaches the end with all of them. -/
inductive Drains (virt : Virt) (rep : ℕ) (suffix : Fin 8 → UInt8) (hostname : String)
    (addrs : List IpAddr) (delegated : List Next) : Next → Virt → Prop where
  | interrupted {result : Next} (hend : .ok none ∉ delegated)
      (hvisible : visible none delegated = [result]) :
      Drains virt rep suffix hostname addrs delegated result
        (virt.setResolve rep
          (some (.Draining hostname (addrs ++ (addresses delegated).map ip_to_std))))
  | ended {result : Next} {virt' : Virt} (hend : .ok none ∈ delegated)
      (hvisible : visible (some result) delegated = [result])
      (h : Yields virt rep suffix hostname (addrs ++ (addresses delegated).map ip_to_std)
        result virt') :
      Drains virt rep suffix hostname addrs delegated result virt'

/-- What the loop does on a draining stream, by induction on the results it is given: it
stops at the first that is no address. -/
theorem nextLoop_draining {rep : ℕ} {suffix : Fin 8 → UInt8} {hostname : String}
    {delegated : List Next} {virt virt' : Virt} {addrs : List IpAddr} {result : Next}
    (hstate : virt.p2_resolves rep = some (.Draining hostname addrs))
    (h : nextLoop rep suffix virt delegated = some (result, virt', [])) :
    Drains virt rep suffix hostname addrs delegated result virt' := by
  -- by induction on the results, the addresses so far moving into the state
  induction delegated generalizing virt addrs with
  | nil => exact absurd h (by simp [nextLoop])
  | cons next delegated ih =>
      match next with
      | .error e =>
          simp only [nextLoop, Option.some.injEq, Prod.mk.injEq] at h
          obtain ⟨rfl, rfl, rfl⟩ := h
          have hkeep : virt.setResolve rep (some (.Draining hostname
              (addrs ++ (addresses [.error e]).map ip_to_std))) = virt := by
            rw [addresses, addresses, List.map_nil, List.append_nil, ← hstate, Virt.setResolve,
              Function.update_eq_self]
          have hint : Drains virt rep suffix hostname addrs [.error e] (.error e)
              (virt.setResolve rep (some (.Draining hostname
                (addrs ++ (addresses [.error e]).map ip_to_std)))) :=
            .interrupted (by simp) rfl
          rwa [hkeep] at hint
      | .ok (some addr) =>
          simp only [nextLoop, hstate] at h
          have hrest := ih (Virt.setResolve_self _ _ _) h
          have hall : addrs ++ [ip_to_std addr] ++ (addresses delegated).map ip_to_std
              = addrs ++ (addresses (.ok (some addr) :: delegated)).map ip_to_std := by
            rw [addresses, List.map_cons, List.append_assoc, List.singleton_append]
          cases hrest with
          | interrupted hend hvisible =>
              rw [Virt.setResolve_setResolve, hall]
              exact .interrupted (by simpa using hend) hvisible
          | ended hend hvisible hyields =>
              rw [hall] at hyields
              refine .ended (List.mem_cons_of_mem _ hend) hvisible ?_
              cases hyields with
              | unresolvable hnil =>
                  rw [Virt.setResolve_setResolve]
                  exact .unresolvable hnil
              | handle hne =>
                  rw [Virt.setResolve_setResolve]
                  exact .handle hne
      | .ok none =>
          simp only [nextLoop, hstate] at h
          have hall : addrs ++ (addresses (.ok none :: delegated)).map ip_to_std = addrs := by
            rw [addresses, List.map_nil, List.append_nil]
          by_cases hnil : addrs = []
          · rw [if_pos hnil, Option.some.injEq, Prod.mk.injEq, Prod.mk.injEq] at h
            obtain ⟨rfl, rfl, rfl⟩ := h
            refine .ended List.mem_cons_self rfl ?_
            rw [hall]
            exact .unresolvable hnil
          · rw [if_neg hnil, Option.some.injEq, Prod.mk.injEq, Prod.mk.injEq] at h
            obtain ⟨rfl, rfl, rfl⟩ := h
            refine .ended List.mem_cons_self rfl ?_
            rw [hall]
            exact .handle hnil

/-- A call after the end asks the delegated stream once, and hands on no address. -/
theorem nextLoop_yielded {rep : ℕ} {suffix : Fin 8 → UInt8} {delegated : List Next}
    {virt virt' : Virt} {result : Next} (hstate : virt.p2_resolves rep = some .Yielded)
    (h : nextLoop rep suffix virt delegated = some (result, virt', [])) :
    ∃ next, delegated = [next] ∧ result = next.map (fun _ => none) ∧ virt' = virt := by
  match delegated with
  | [] => exact absurd h (by simp [nextLoop])
  | .error e :: rest =>
      simp only [nextLoop, Option.some.injEq, Prod.mk.injEq] at h
      obtain ⟨rfl, rfl, rfl⟩ := h
      exact ⟨.error e, rfl, rfl, rfl⟩
  | .ok next :: rest =>
      simp only [nextLoop, hstate, Option.some.injEq, Prod.mk.injEq] at h
      obtain ⟨rfl, rfl, rfl⟩ := h
      exact ⟨.ok next, rfl, rfl, rfl⟩

/-- One turn of the loop: it returns, or it has got an address and goes on. -/
theorem nextLoop_turn (rep : ℕ) (suffix : Fin 8 → UInt8) (virt : Virt) (next : Next) :
    (∃ result virt', ∀ rest,
      nextLoop rep suffix virt (next :: rest) = some (result, virt', rest)) ∨
    (∃ addr virt', next = .ok (some addr) ∧ ∀ rest,
      nextLoop rep suffix virt (next :: rest) = nextLoop rep suffix virt' rest) := by
  match next with
  | .error e => exact .inl ⟨_, _, fun rest => rfl⟩
  | .ok next =>
      match hstate : virt.p2_resolves rep with
      | none =>
          refine .inl ⟨.ok next, virt, fun rest => ?_⟩
          simp only [nextLoop, hstate]
      | some .Yielded =>
          refine .inl ⟨.ok none, virt, fun rest => ?_⟩
          simp only [nextLoop, hstate]
      | some (.Draining hostname addrs) =>
          match next with
          | some addr =>
              refine .inr ⟨addr, virt.setResolve rep
                (some (.Draining hostname (addrs ++ [ip_to_std addr]))), rfl, fun rest => ?_⟩
              simp only [nextLoop, hstate]
          | none =>
              left
              by_cases hnil : addrs = []
              · refine ⟨.error .NameUnresolvable, virt.setResolve rep (some .Yielded),
                  fun rest => ?_⟩
                simp only [nextLoop, hstate, if_pos hnil]
              · refine ⟨.ok (some (handle_to_ip (virt.names.mint suffix ⟨hostname, addrs⟩).1)),
                  { virt.setResolve rep (some .Yielded) with
                    names := (virt.names.mint suffix ⟨hostname, addrs⟩).2 }, fun rest => ?_⟩
                simp only [nextLoop, hstate, if_neg hnil]
                rfl

/-- **A call returns** when the delegated stream has something else than addresses for it:
it returns at the first such result, or earlier. -/
theorem nextLoop_returns (rep : ℕ) (suffix : Fin 8 → UInt8) (virt : Virt)
    (delegated : ℕ → Next) {n : ℕ} (hn : ∀ addr, delegated n ≠ .ok (some addr)) :
    ∃ k result virt', nextLoop rep suffix virt ((List.range (k + 1)).map delegated)
      = some (result, virt', []) := by
  induction n generalizing virt delegated with
  | zero =>
      rcases nextLoop_turn rep suffix virt (delegated 0) with ⟨result, virt', h⟩ | ⟨addr, _, h, _⟩
      · exact ⟨0, result, virt', h []⟩
      · exact absurd h (hn addr)
  | succ n ih =>
      rcases nextLoop_turn rep suffix virt (delegated 0) with ⟨result, virt', h⟩ | ⟨_, virt', _, h⟩
      · exact ⟨0, result, virt', h []⟩
      · obtain ⟨k, result, virt'', hrest⟩ := ih virt' (fun i => delegated (i + 1)) hn
        refine ⟨k + 1, result, virt'', ?_⟩
        rw [List.range_succ_eq_map, List.map_cons, h, List.map_map]
        exact hrest

/-- The delegated stream of a call that does not return holds addresses for ever. -/
theorem exists_not_address {delegated : ℕ → Next}
    (h : {i | ∃ addr, delegated i = .ok (some addr)}.Finite) :
    ∃ n, ∀ addr, delegated n ≠ .ok (some addr) := by
  obtain ⟨n, hn⟩ := h.exists_notMem
  exact ⟨n, fun addr heq => hn ⟨addr, heq⟩⟩

/-! ## Every step keeps the streams on track -/

/-- The state of a stream is what its life so far makes it. -/
inductive Tracks (virt : Virt) (rep : ℕ) (log : Log) : Prop where
  | plain (hname : strip_suffix log.name = none) (hstate : virt.p2_resolves rep = none)
  | draining {real : String} (hname : strip_suffix log.name = some real)
      (hstate : virt.p2_resolves rep
        = some (.Draining real ((addresses log.delegated).map ip_to_std)))
      (hend : .ok none ∉ log.delegated) (hending : log.ending = none)
      (hresults : log.results = visible none log.delegated)
  | yielded {real : String} {e : Ending} (hname : strip_suffix log.name = some real)
      (hstate : virt.p2_resolves rep = some .Yielded) (hend : .ok none ∈ log.delegated)
      (hending : log.ending = some e)
      (hagrees : resolve_addresses e.before e.suffix log.name
        (fun _ => .ok (addresses log.delegated)) = (asList e.result, e.after))
      (hresults : log.results = visible (some e.result) log.delegated)

/-- Every open stream is on track, and what a guest was given stands in the table. -/
structure Inv (s : Sys) : Prop where
  tracks : ∀ rep log, s.streams rep = some log → Tracks s.virt rep log
  closed : ∀ rep, s.streams rep = none → s.virt.p2_resolves rep = none

/-- No stream is open. -/
theorem inv_init (random : Fin 8 → UInt8) : Inv (.init random) :=
  ⟨fun _ _ h => absurd h (by simp [Sys.init]), fun _ _ => rfl⟩

/-- A stream is on track by its own entry, so a step that leaves that entry leaves it on
track. -/
theorem Tracks.of_eq {virt virt' : Virt} {rep : ℕ} {log : Log}
    (heq : virt'.p2_resolves rep = virt.p2_resolves rep) (h : Tracks virt rep log) :
    Tracks virt' rep log := by
  cases h with
  | plain hname hstate => exact .plain hname (heq.trans hstate)
  | draining hname hstate hend hending hresults =>
      exact .draining hname (heq.trans hstate) hend hending hresults
  | yielded hname hstate hend hending hagrees hresults =>
      exact .yielded hname (heq.trans hstate) hend hending hagrees hresults

/-- What 0.2 does at the end of the delegated stream is what 0.3 does with the list. -/
theorem Yields.agrees {virt virt' : Virt} {rep : ℕ} {suffix : Fin 8 → UInt8}
    {name real : String} {addrs : List IpAddress} {result : Next}
    (hname : strip_suffix name = some real)
    (h : Yields virt rep suffix real (addrs.map ip_to_std) result virt') :
    resolve_addresses virt.names suffix name (fun _ => .ok addrs)
      = (asList result, virt'.names) := by
  cases h with
  | unresolvable hnil =>
      rw [List.map_eq_nil_iff] at hnil
      simp only [resolve_addresses, hname, if_pos hnil]
      rfl
  | handle hne =>
      rw [ne_eq, List.map_eq_nil_iff] at hne
      simp only [resolve_addresses, hname, if_neg hne]
      rfl

/-- After its end a stream has yielded, whatever it yielded. -/
theorem Yields.state {virt virt' : Virt} {rep : ℕ} {suffix : Fin 8 → UInt8}
    {hostname : String} {addrs : List IpAddr} {result : Next}
    (h : Yields virt rep suffix hostname addrs result virt') :
    virt'.p2_resolves rep = some .Yielded ∧
      ∀ r, r ≠ rep → virt'.p2_resolves r = virt.p2_resolves r := by
  cases h with
  | unresolvable hnil => exact ⟨virt.setResolve_self _ _, fun r hr => virt.setResolve_of_ne _ hr⟩
  | handle hne => exact ⟨virt.setResolve_self _ _, fun r hr => virt.setResolve_of_ne _ hr⟩

/-- Without an entry the call is the delegated stream's. -/
theorem resolve_next_address_plain {virt virt' : Virt} {rep : ℕ} {suffix : Fin 8 → UInt8}
    {delegated : List Next} {result : Next} (hstate : virt.p2_resolves rep = none)
    (h : resolve_next_address virt rep suffix delegated = some (result, virt')) :
    delegated = [result] ∧ virt' = virt := by
  simp only [resolve_next_address, hstate] at h
  split at h
  · rw [Option.some.injEq, Prod.mk.injEq] at h
    rw [h.1, h.2]
    exact ⟨rfl, rfl⟩
  · exact absurd h (by simp)

/-- With one it is the loop, over exactly the results it asks for. -/
theorem resolve_next_address_wrapped {virt virt' : Virt} {rep : ℕ} {suffix : Fin 8 → UInt8}
    {delegated : List Next} {result : Next} {state : P2Resolve}
    (hstate : virt.p2_resolves rep = some state)
    (h : resolve_next_address virt rep suffix delegated = some (result, virt')) :
    nextLoop rep suffix virt delegated = some (result, virt', []) := by
  simp only [resolve_next_address, hstate] at h
  split at h
  case h_1 heq =>
      rw [Option.some.injEq, Prod.mk.injEq] at h
      rw [heq, h.1, h.2]
  case h_2 => exact absurd h (by simp)

/-- A call on a draining stream keeps it on track. -/
theorem tracks_drains {virt virt' : Virt} {rep : ℕ} {log : Log} {suffix : Fin 8 → UInt8}
    {delegated : List Next} {result : Next} {real : String}
    (hname : strip_suffix log.name = some real) (hend : .ok none ∉ log.delegated)
    (hending : log.ending = none) (hresults : log.results = visible none log.delegated)
    (h : Drains virt rep suffix real ((addresses log.delegated).map ip_to_std) delegated
      result virt') :
    Tracks virt' rep (log.after virt.names virt'.names suffix delegated result) := by
  have hall : (addresses log.delegated).map ip_to_std ++ (addresses delegated).map ip_to_std
      = (addresses (log.delegated ++ delegated)).map ip_to_std := by
    rw [addresses_append hend, List.map_append]
  cases h with
  | interrupted hnot hvisible =>
      have hending' : (log.after virt.names (virt.setResolve rep (some (.Draining real
          ((addresses log.delegated).map ip_to_std ++ (addresses delegated).map ip_to_std)))).names
          suffix delegated result).ending = none := by
        rw [Log.after, hending, if_neg fun h => hnot h.2]
      refine .draining hname ?_ ?_ hending' ?_
      · rw [Virt.setResolve_self, hall]
        rfl
      · show .ok none ∉ log.delegated ++ delegated
        rw [List.mem_append, not_or]
        exact ⟨hend, hnot⟩
      · show log.results ++ [result] = visible none (log.delegated ++ delegated)
        rw [visible_append hend, hvisible, hresults]
  | ended hhas hvisible hyields =>
      rw [hall] at hyields
      have hending' : (log.after virt.names virt'.names suffix delegated result).ending
          = some ⟨virt.names, suffix, result, virt'.names⟩ := by
        rw [Log.after, hending, if_pos ⟨rfl, hhas⟩]
      refine .yielded hname hyields.state.1 (List.mem_append_right _ hhas) hending' ?_ ?_
      · exact hyields.agrees hname
      · show log.results ++ [result] = visible (some result) (log.delegated ++ delegated)
        rw [visible_append hend, hvisible, hresults, visible_of_not_ended none (some result) hend]

/-- A call keeps its stream on track: it drains on, reaches the end, or is past it. -/
theorem tracks_next {virt virt' : Virt} {rep : ℕ} {log : Log} {suffix : Fin 8 → UInt8}
    {delegated : List Next} {result : Next} (ht : Tracks virt rep log)
    (h : resolve_next_address virt rep suffix delegated = some (result, virt')) :
    Tracks virt' rep (log.after virt.names virt'.names suffix delegated result) ∧
      ∀ r, r ≠ rep → virt'.p2_resolves r = virt.p2_resolves r := by
  cases ht with
  | plain hname hstate =>
      obtain ⟨-, rfl⟩ := resolve_next_address_plain hstate h
      exact ⟨.plain hname hstate, fun r hr => rfl⟩
  | draining hname hstate hend hending hresults =>
      have hdrains := nextLoop_draining hstate (resolve_next_address_wrapped hstate h)
      refine ⟨tracks_drains hname hend hending hresults hdrains, fun r hr => ?_⟩
      cases hdrains with
      | interrupted => exact virt.setResolve_of_ne _ hr
      | ended _ _ hyields => exact hyields.state.2 r hr
  | @yielded real e hname hstate hend hending hagrees hresults =>
      obtain ⟨next, rfl, rfl, rfl⟩ :=
        nextLoop_yielded hstate (resolve_next_address_wrapped hstate h)
      have hending' : (log.after virt'.names virt'.names suffix [next]
          (next.map fun _ => none)).ending = some e := by
        rw [Log.after, hending, if_neg fun h => absurd h.1 (by simp)]
      refine ⟨.yielded hname hstate (List.mem_append_left _ hend) hending' ?_ ?_,
        fun r hr => rfl⟩
      · show resolve_addresses e.before e.suffix log.name
            (fun _ => .ok (addresses (log.delegated ++ [next]))) = _
        rw [addresses_append_of_ended _ hend]
        exact hagrees
      · show log.results ++ _ = visible (some e.result) (log.delegated ++ [next])
        rw [visible_append_of_ended _ hend, hresults]
        rfl

/-- A step that moves one stream and leaves the others. -/
theorem inv_update {s : Sys} {rep : ℕ} {log : Option Log} {virt : Virt}
    {minted : List (IpAddress × Entry)} (hi : Inv s)
    (hothers : ∀ r, r ≠ rep → virt.p2_resolves r = s.virt.p2_resolves r)
    (htracks : ∀ l, log = some l → Tracks virt rep l)
    (hclosed : log = none → virt.p2_resolves rep = none) :
    Inv ⟨virt, Function.update s.streams rep log, minted⟩ := by
  refine ⟨fun r l hr => ?_, fun r hr => ?_⟩
  · by_cases heq : r = rep
    · subst heq
      replace hr : Function.update s.streams r log r = some l := hr
      rw [Function.update_self] at hr
      exact htracks l hr
    · replace hr : Function.update s.streams rep log r = some l := hr
      rw [Function.update_of_ne heq] at hr
      exact (hi.tracks r l hr).of_eq (hothers r heq)
  · by_cases heq : r = rep
    · subst heq
      replace hr : Function.update s.streams r log r = none := hr
      rw [Function.update_self] at hr
      exact hclosed hr
    · replace hr : Function.update s.streams rep log r = none := hr
      rw [Function.update_of_ne heq] at hr
      exact (hothers r heq).trans (hi.closed r hr)

/-- A step moves one stream at most. -/
theorem inv_step {s s' : Sys} {a : Act} (hi : Inv s) (h : step s a = some s') : Inv s' := by
  cases trans_of_step h with
  | resolve =>
      refine ⟨fun rep log hlog => Tracks.of_eq ?_ (hi.tracks rep log hlog), hi.closed⟩
      rfl
  | refused => exact hi
  | @opensPlain rep name hfree hname =>
      have hnone := hi.closed rep hfree
      refine inv_update hi (fun r hr => rfl) (fun l hl => ?_) fun _ => hnone
      rw [← Option.some.inj hl]
      exact .plain hname hnone
  | opensWrapped hfree hname =>
      refine inv_update hi (fun r hr => s.virt.setResolve_of_ne _ hr) (fun l hl => ?_)
        fun h => absurd h (by simp)
      rw [← Option.some.inj hl]
      exact .draining hname (s.virt.setResolve_self _ _) List.not_mem_nil rfl rfl
  | @next rep suffix delegated log result virt hlog hcall =>
      obtain ⟨ht, hothers⟩ := tracks_next (hi.tracks rep log hlog) hcall
      refine inv_update hi hothers (fun l hl => ?_) fun h => absurd h (by simp)
      rw [← Option.some.inj hl]
      exact ht
  | drop hlog =>
      exact inv_update hi (fun r hr => s.virt.setResolve_of_ne _ hr)
        (fun l hl => absurd hl (by simp)) fun _ => s.virt.setResolve_self _ _

/-! ## The contract holds -/

/-- The address handed out is the outcome of the ending call. -/
theorem result_of_handed {log : Log} {e : Ending} {addr : IpAddress}
    (hresults : log.results = visible (some e.result) log.delegated)
    (hmem : .ok (some addr) ∈ log.results) : e.result = .ok (some addr) := by
  have hin : addr ∈ log.results.filterMap handed := List.mem_filterMap.mpr ⟨_, hmem, rfl⟩
  rw [hresults] at hin
  rcases handed_visible (some e.result) log.delegated with h | h
  · rw [h] at hin
    exact absurd hin List.not_mem_nil
  · rw [h] at hin
    obtain ⟨next, hnext, haddr⟩ := List.mem_filterMap.mp hin
    rw [Option.toList_some, List.mem_singleton] at hnext
    subst hnext
    unfold handed at haddr
    split at haddr
    · rename_i heq
      rw [heq, Option.some.inj haddr]
    · exact absurd haddr (by simp)

/-- When 0.3 returns an address, it is the handle it mints. -/
theorem minting_of_agrees {log : Log} {e : Ending} {addr : IpAddress} {real : String}
    (hname : strip_suffix log.name = some real) (hresult : e.result = .ok (some addr))
    (hagrees : resolve_addresses e.before e.suffix log.name
      (fun _ => .ok (addresses log.delegated)) = (asList e.result, e.after)) :
    addr = handle_to_ip (e.minting real log).1 ∧ e.after = (e.minting real log).2 := by
  rw [hresult] at hagrees
  by_cases hnil : addresses log.delegated = []
  · simp [resolve_addresses, hname, hnil, asList, Except.map] at hagrees
  · simp only [resolve_addresses, hname, if_neg hnil, asList, Except.map,
      Option.toList_some, Prod.mk.injEq, Except.ok.injEq, List.cons.injEq, and_true] at hagrees
    exact ⟨hagrees.1.symm, hagrees.2.symm⟩

/-- The contract from the life of the stream, by where it is. -/
theorem refines_of_tracks {virt : Virt} {rep : ℕ} {log : Log} {real : String}
    (hname : strip_suffix log.name = some real) (ht : Tracks virt rep log) :
    Refines log real := by
  cases ht with
  | plain hplain hstate =>
      rw [hplain] at hname
      exact absurd hname (by simp)
  | draining hname' hstate hend hending hresults =>
      have hnone : log.results.filterMap handed = [] := by
        rw [hresults]
        rcases handed_visible none log.delegated with h | h
        · exact h
        · exact h
      refine ⟨?_, ?_, fun addr hmem => ?_, fun e he => ?_, ?_⟩
      · rw [hresults, hending]
        rfl
      · rw [hnone]
        exact Nat.zero_le 1
      · rw [List.filterMap_eq_nil_iff] at hnone
        exact absurd (hnone _ hmem) (by simp [handed])
      · rw [hending] at he
        exact absurd he (by simp)
      · rw [hending]
        simp [hend]
  | @yielded real' e hname' hstate hend hending hagrees hresults =>
      have hreal : real' = real := by
        rw [hname, Option.some.injEq] at hname'
        exact hname'.symm
      subst hreal
      have hhanded := handed_visible (some e.result) log.delegated
      rw [← hresults] at hhanded
      refine ⟨?_, ?_, fun addr hmem => ⟨hend, e, hending, ?_⟩, fun e' he => ?_, ?_⟩
      · rw [hresults, hending]
        rfl
      · rcases hhanded with h | h
        · rw [h]
          exact Nat.zero_le 1
        · rw [h]
          exact List.length_filterMap_le _ _
      · have hresult := result_of_handed hresults hmem
        exact ⟨hresult, minting_of_agrees hname hresult hagrees⟩
      · rw [hending, Option.some.injEq] at he
        rw [← he]
        exact hagrees
      · rw [hending]
        simp [hend]

/-- The contract of all open streams. -/
theorem wraps_of_inv {s : Sys} (hi : Inv s) : WrapsStreams s := by
  refine ⟨fun rep log real hlog hname => refines_of_tracks hname (hi.tracks rep log hlog),
    fun rep log suffix delegated hlog hfinite => ?_⟩
  obtain ⟨n, hn⟩ := exists_not_address hfinite
  cases hstate : s.virt.p2_resolves rep with
  | none =>
      refine ⟨1, ?_⟩
      simp [step, hlog, resolve_next_address, hstate, List.range_succ]
  | some state =>
      obtain ⟨k, result, virt, hloop⟩ := nextLoop_returns rep suffix s.virt delegated hn
      refine ⟨k + 1, ?_⟩
      simp only [step, hlog, resolve_next_address, hstate, hloop, Option.isSome_some]

/-- **A suffix-opted 0.2 resolution never leaks a real address and agrees with 0.3.** For
every prefix, every history of lookups through any front end, every behaviour of the
delegated streams and every sequence of calls on the wrapped ones. -/
theorem wrapped_stream_refines (random : Fin 8 → UInt8) (acts : List Act) :
    Lts.Always step WrapsStreams (.init random) acts :=
  Lts.always_of_invariant (inv_init random) inv_step wraps_of_inv

end PolymorphTls.Resolve
