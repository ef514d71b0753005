import FreshVpn.LibraryFilter
import FreshVpn.LibraryIpv4

/-! The packet filter that the client installs on Linux. The root chain has a placeholder for each anchor, in the
order in which the anchors are installed, and an anchor is enabled by a jump from its placeholder to its chain. A
command that names a chain which does not exist changes nothing. -/

namespace FreshVpn

inductive Verdict where
  | accept
  | reject
  deriving DecidableEq, Repr

inductive Transport where
  | udp
  | tcp
  | other
  deriving DecidableEq, Repr

structure Packet (w : ℕ) where
  out : String
  destination : BitVec w
  transport : Transport
  sport : ℕ
  dport : ℕ
  mark : ℕ
  deriving DecidableEq, Repr

/-- A rule: what of the packet it looks at, and its target. An interface is given by the beginning of its name, as
`-o tun0+` does. -/
structure Rule (w : ℕ) where
  out : Option String := none
  notOut : Option String := none
  destination : Option (Network w) := none
  transport : Option Transport := none
  sport : Option ℕ := none
  dport : Option ℕ := none
  mark : Option ℕ := none
  target : Verdict
  deriving DecidableEq, Repr

def Packet.leavesBy {w : ℕ} (packet : Packet w) (name : String) : Bool := name.toList.isPrefixOf packet.out.toList

def Rule.applies {w : ℕ} (rule : Rule w) (packet : Packet w) : Bool :=
  rule.out.all packet.leavesBy && rule.notOut.all (fun name => !packet.leavesBy name) &&
    rule.destination.all (·.contains packet.destination) && rule.transport.all (packet.transport == ·) &&
    rule.sport.all (packet.sport == ·) && rule.dport.all (packet.dport == ·) && rule.mark.all (packet.mark == ·)

/-- The anchors of the filter table. `allowPIA` is switched but never installed. -/
inductive Anchor where
  | allowLoopback
  | allowDNS
  | blockDNS
  | allowLAN
  | allowDHCP
  | blockIPv6
  | allowVPN
  | allowMarkedXray
  | blockNets
  | allowNets
  | blockAll
  | allowPIA
  deriving DecidableEq, Repr

/-- The chains of the filter table of one protocol. `linked` is the jump from the output chain to the root chain; a chain
that does not exist is `none`, and the value of a placeholder is whether it jumps to the chain of its anchor. -/
structure FilterTable (w : ℕ) where
  linked : Bool
  root : Option (List Anchor)
  placeholder : Anchor → Option Bool
  chain : Anchor → Option (List (Rule w))

namespace FilterTable

variable {w : ℕ}

def bare : FilterTable w := ⟨false, none, fun _ => none, fun _ => none⟩

/-- `createChain` for the root chain. -/
def createRoot (t : FilterTable w) : FilterTable w := { t with root := some [] }

def linkRoot (t : FilterTable w) : FilterTable w := { t with linked := t.linked || t.root.isSome }

/-- `linkChain` for the placeholder of an anchor. -/
def linkPlaceholder (a : Anchor) (t : FilterTable w) : FilterTable w :=
  { t with root := t.root.map fun anchors => if a ∈ anchors then anchors else anchors ++ [a] }

def installAnchor (a : Anchor) (rules : List (Rule w)) (t : FilterTable w) : FilterTable w :=
  let placed := linkPlaceholder a { t with placeholder := Function.update t.placeholder a (some false) }
  { placed with chain := Function.update placed.chain a (some rules) }

/-- The jump from the output chain goes first, then the root chain, then the chains of the anchors. -/
def uninstallAnchor (a : Anchor) (t : FilterTable w) : FilterTable w :=
  { t with placeholder := Function.update t.placeholder a none, chain := Function.update t.chain a none }

def uninstall (anchors : List Anchor) (t : FilterTable w) : FilterTable w :=
  anchors.foldl (fun t a => uninstallAnchor a t) { t with linked := false, root := none }

def enableAnchor (a : Anchor) (t : FilterTable w) : FilterTable w :=
  if (t.placeholder a).isSome ∧ (t.chain a).isSome then
    { t with placeholder := Function.update t.placeholder a (some true) }
  else t

def disableAnchor (a : Anchor) (t : FilterTable w) : FilterTable w :=
  if t.placeholder a = some true then { t with placeholder := Function.update t.placeholder a (some false) } else t

def setAnchorEnabled (a : Anchor) (enabled : Bool) (t : FilterTable w) : FilterTable w :=
  if enabled then enableAnchor a t else disableAnchor a t

def replaceRules (a : Anchor) (rules : List (Rule w)) (t : FilterTable w) : FilterTable w :=
  { t with chain := Function.update t.chain a ((t.chain a).map fun _ => rules) }

/-- The rules of an anchor that a packet in the root chain comes to. -/
def rulesOf (t : FilterTable w) (a : Anchor) : List (Rule w) :=
  if t.placeholder a = some true then (t.chain a).getD [] else []

/-- What a packet comes to on the output chain before the rules of others. -/
def rules (t : FilterTable w) : List (Rule w) := if t.linked then (t.root.getD []).flatMap t.rulesOf else []

/-- A packet that no rule decides is accepted. -/
def verdict (t : FilterTable w) (packet : Packet w) : Verdict :=
  (Filter.first Rule.applies Rule.target t.rules packet).getD .accept

/-- What an anchor says of a packet that comes to it. -/
def ruling (t : FilterTable w) (packet : Packet w) (a : Anchor) : Option Verdict :=
  Filter.first Rule.applies Rule.target (t.rulesOf a) packet

/-- A series of calls of `setAnchorEnabled`. -/
def setAll (settings : List (Anchor × Bool)) (t : FilterTable w) : FilterTable w :=
  settings.foldl (fun t e => setAnchorEnabled e.1 e.2 t) t

/-! ### What a command changes -/

variable (a : Anchor) (e : Bool) (rules : List (Rule w))

@[simp] theorem setAnchorEnabled_linked (t : FilterTable w) : (setAnchorEnabled a e t).linked = t.linked := by
  unfold setAnchorEnabled enableAnchor disableAnchor
  split <;> split <;> rfl

@[simp] theorem setAnchorEnabled_root (t : FilterTable w) : (setAnchorEnabled a e t).root = t.root := by
  unfold setAnchorEnabled enableAnchor disableAnchor
  split <;> split <;> rfl

@[simp] theorem setAnchorEnabled_chain (t : FilterTable w) : (setAnchorEnabled a e t).chain = t.chain := by
  unfold setAnchorEnabled enableAnchor disableAnchor
  split <;> split <;> rfl

variable {b : Anchor} {t : FilterTable w}

theorem setAnchorEnabled_placeholder_of_ne {a : Anchor} (h : b ≠ a) (e : Bool) (t : FilterTable w) :
    (setAnchorEnabled a e t).placeholder b = t.placeholder b := by
  unfold setAnchorEnabled enableAnchor disableAnchor
  split <;> split <;> first | rfl | exact Function.update_of_ne h _ _

theorem setAnchorEnabled_placeholder_self {a : Anchor} (hplaceholder : (t.placeholder a).isSome)
    (hchain : (t.chain a).isSome) (e : Bool) : (setAnchorEnabled a e t).placeholder a = some e := by
  cases e with
  | true =>
    change (enableAnchor a t).placeholder a = some true
    rw [enableAnchor, if_pos ⟨hplaceholder, hchain⟩]
    exact Function.update_self ..
  | false =>
    change (disableAnchor a t).placeholder a = some false
    obtain ⟨on, hon⟩ := Option.isSome_iff_exists.mp hplaceholder
    rw [disableAnchor]
    cases on with
    | true =>
      rw [if_pos hon]
      exact Function.update_self ..
    | false =>
      rw [if_neg (by rw [hon]; decide), hon]

theorem setAnchorEnabled_placeholder_isSome {a : Anchor} (h : (t.placeholder b).isSome) (hchain : (t.chain b).isSome)
    (e : Bool) : ((setAnchorEnabled a e t).placeholder b).isSome := by
  by_cases hb : b = a
  · subst hb
    rw [setAnchorEnabled_placeholder_self h hchain]
    rfl
  · rwa [setAnchorEnabled_placeholder_of_ne hb]

@[simp] theorem replaceRules_linked (t : FilterTable w) : (replaceRules a rules t).linked = t.linked := rfl

@[simp] theorem replaceRules_root (t : FilterTable w) : (replaceRules a rules t).root = t.root := rfl

@[simp] theorem replaceRules_placeholder (t : FilterTable w) :
    (replaceRules a rules t).placeholder = t.placeholder := rfl

theorem replaceRules_chain_of_ne {a : Anchor} (h : b ≠ a) (rules : List (Rule w)) (t : FilterTable w) :
    (replaceRules a rules t).chain b = t.chain b :=
  Function.update_of_ne h _ _

theorem replaceRules_chain_self {a : Anchor} (h : (t.chain a).isSome) (rules : List (Rule w)) :
    (replaceRules a rules t).chain a = some rules := by
  obtain ⟨old, hold⟩ := Option.isSome_iff_exists.mp h
  rw [replaceRules, hold]
  exact Function.update_self ..

@[simp] theorem replaceRules_chain_isSome (a b : Anchor) (rules : List (Rule w)) (t : FilterTable w) :
    ((replaceRules a rules t).chain b).isSome = (t.chain b).isSome := by
  by_cases hb : b = a
  · subst hb
    simp [replaceRules]
  · rw [replaceRules_chain_of_ne hb]

/-- The last value that a series of calls gives to an anchor. -/
def lastSetting (a : Anchor) : List (Anchor × Bool) → Option Bool
  | [] => none
  | e :: settings => (lastSetting a settings).or (if e.1 = a then some e.2 else none)

@[simp] theorem setAll_chain (settings : List (Anchor × Bool)) (t : FilterTable w) :
    (setAll settings t).chain = t.chain := by
  induction settings generalizing t with
  | nil => rfl
  | cons e settings ih => exact (ih _).trans (setAnchorEnabled_chain e.1 e.2 t)

theorem setAll_placeholder {a : Anchor} (hplaceholder : (t.placeholder a).isSome) (hchain : (t.chain a).isSome)
    (settings : List (Anchor × Bool)) :
    (setAll settings t).placeholder a = (lastSetting a settings).or (t.placeholder a) := by
  induction settings generalizing t with
  | nil => rfl
  | cons e settings ih =>
    have hset : (setAnchorEnabled e.1 e.2 t).placeholder a =
        (if e.1 = a then some e.2 else none).or (t.placeholder a) := by
      by_cases ha : e.1 = a
      · rw [if_pos ha, ha, setAnchorEnabled_placeholder_self hplaceholder hchain]
        rfl
      · rw [if_neg ha, setAnchorEnabled_placeholder_of_ne (Ne.symm ha)]
        rfl
    have hrest := ih (setAnchorEnabled_placeholder_isSome (a := e.1) hplaceholder hchain e.2)
      (by rw [setAnchorEnabled_chain]; exact hchain)
    rw [hset, ← Option.or_assoc] at hrest
    exact hrest

/-! ### What an anchor says -/

theorem ruling_of_not_enabled {a : Anchor} (h : t.placeholder a ≠ some true) (packet : Packet w) :
    t.ruling packet a = none := by
  rw [ruling, rulesOf, if_neg h]
  rfl

theorem ruling_of_enabled {a : Anchor} {rules : List (Rule w)} (h : t.placeholder a = some true)
    (hchain : t.chain a = some rules) (packet : Packet w) :
    t.ruling packet a = Filter.first Rule.applies Rule.target rules packet := by
  rw [ruling, rulesOf, if_pos h, hchain]
  rfl

theorem ruling_congr {u : FilterTable w} {a : Anchor} (hplaceholder : u.placeholder a = t.placeholder a)
    (hchain : u.chain a = t.chain a) (packet : Packet w) : u.ruling packet a = t.ruling packet a := by
  rw [ruling, ruling, rulesOf, rulesOf, hplaceholder, hchain]

/-! ### Installed tables -/

/-- The root chain jumps to the placeholders of these anchors in this order, each of them is there with its chain, and the
chains that are not refilled hold the rules they were installed with. -/
structure Installed (refilled : List Anchor) (spec : List (Anchor × List (Rule w))) (t : FilterTable w) : Prop where
  linked : t.linked = true
  root : t.root = some (spec.map Prod.fst)
  placeholder : ∀ a ∈ spec.map Prod.fst, (t.placeholder a).isSome
  chain : ∀ a ∈ spec.map Prod.fst, (t.chain a).isSome
  fixed : ∀ e ∈ spec, e.1 ∉ refilled → t.chain e.1 = some e.2

def install (spec : List (Anchor × List (Rule w))) (t : FilterTable w) : FilterTable w :=
  linkRoot (spec.foldl (fun t e => installAnchor e.1 e.2 t) (createRoot t))

section
variable {refilled : List Anchor} {spec : List (Anchor × List (Rule w))} {t : FilterTable w}

section
variable (h : Installed refilled spec t)
include h

theorem Installed.setAnchorEnabled (a : Anchor) (e : Bool) :
    Installed refilled spec (setAnchorEnabled a e t) where
  linked := by rw [setAnchorEnabled_linked, h.linked]
  root := by rw [setAnchorEnabled_root, h.root]
  placeholder b hb := setAnchorEnabled_placeholder_isSome (h.placeholder b hb) (h.chain b hb) e
  chain b hb := by rw [setAnchorEnabled_chain]; exact h.chain b hb
  fixed b hb hfixed := by rw [setAnchorEnabled_chain]; exact h.fixed b hb hfixed

theorem Installed.replaceRules {a : Anchor} (ha : a ∈ refilled) (rules : List (Rule w)) :
    Installed refilled spec (replaceRules a rules t) where
  linked := h.linked
  root := h.root
  placeholder := h.placeholder
  chain b hb := by rw [replaceRules_chain_isSome]; exact h.chain b hb
  fixed b hb hfixed := by
    have hne : b.1 ≠ a := fun hab => hfixed (hab ▸ ha)
    rw [replaceRules_chain_of_ne hne]
    exact h.fixed b hb hfixed

theorem Installed.verdict_eq (packet : Packet w) :
    t.verdict packet = ((spec.map Prod.fst).findSome? (t.ruling packet)).getD .accept := by
  rw [verdict, rules, if_pos h.linked, h.root, Option.getD_some, Filter.first_flatMap]
  rfl

theorem Installed.setAll (settings : List (Anchor × Bool)) : Installed refilled spec (setAll settings t) := by
  induction settings generalizing t with
  | nil => exact h
  | cons e settings ih => exact ih (h.setAnchorEnabled e.1 e.2)

end

variable {settings : List (Anchor × Bool)}

section
variable (h : Installed refilled spec t)
include h

theorem Installed.setAll_of_set {a : Anchor} (ha : a ∈ spec.map Prod.fst) {e : Bool}
    (hset : lastSetting a settings = some e) : (FilterTable.setAll settings t).placeholder a = some e := by
  rw [setAll_placeholder (h.placeholder a ha) (h.chain a ha), hset]
  rfl

theorem Installed.setAll_of_not_set {a : Anchor} (ha : a ∈ spec.map Prod.fst) (hset : lastSetting a settings = none) :
    (FilterTable.setAll settings t).placeholder a = t.placeholder a := by
  rw [setAll_placeholder (h.placeholder a ha) (h.chain a ha), hset]
  rfl

theorem Installed.linkRoot : t.linkRoot = t := by
  rw [FilterTable.linkRoot, h.linked]
  obtain ⟨linked, root, placeholder, chain⟩ := t
  exact congrArg (fun l => FilterTable.mk l root placeholder chain) h.linked.symm

end

theorem foldl_installAnchor (spec : List (Anchor × List (Rule w))) (t : FilterTable w) {done : List Anchor}
    (hroot : t.root = some done) (hnodup : (done ++ spec.map Prod.fst).Nodup) :
    let u := spec.foldl (fun t e => installAnchor e.1 e.2 t) t
    u.root = some (done ++ spec.map Prod.fst) ∧
      (∀ e ∈ spec, u.placeholder e.1 = some false ∧ u.chain e.1 = some e.2) ∧
      ∀ a ∉ spec.map Prod.fst, u.placeholder a = t.placeholder a ∧ u.chain a = t.chain a := by
  induction spec generalizing t done with
  | nil =>
    refine ⟨by simpa using hroot, ?_, fun a _ => ⟨rfl, rfl⟩⟩
    intro e he
    cases he
  | cons e spec ih =>
    rw [List.map_cons, List.append_cons] at hnodup
    have hnew : e.1 ∉ done := by
      intro hmem
      exact (List.nodup_append.mp (List.nodup_append.mp hnodup).1).2.2 e.1 hmem e.1 (List.mem_singleton_self _) rfl
    have hlater : e.1 ∉ spec.map Prod.fst := by
      intro hmem
      refine (List.nodup_append.mp hnodup).2.2 e.1 ?_ e.1 hmem rfl
      exact List.mem_append_right _ (List.mem_singleton_self _)
    have hplaced : (installAnchor e.1 e.2 t).root = some (done ++ [e.1]) := by
      simp [installAnchor, linkPlaceholder, hroot, hnew]
    obtain ⟨hroot', hspec, hother⟩ := ih _ hplaced hnodup
    refine ⟨by simpa using hroot', ?_, ?_⟩
    · intro e' he'
      rcases List.mem_cons.mp he' with rfl | he'
      · rw [List.foldl_cons, (hother _ hlater).1, (hother _ hlater).2]
        exact ⟨Function.update_self .., Function.update_self ..⟩
      · exact hspec e' he'
    · intro a ha
      rw [List.map_cons, List.mem_cons, not_or] at ha
      rw [List.foldl_cons, (hother a ha.2).1, (hother a ha.2).2]
      exact ⟨Function.update_of_ne ha.1 _ _, Function.update_of_ne ha.1 _ _⟩

theorem installed_install (hnodup : (spec.map Prod.fst).Nodup) (t : FilterTable w) :
    Installed refilled spec (install spec t) := by
  obtain ⟨hroot, hspec, -⟩ := foldl_installAnchor spec t.createRoot rfl (by simpa)
  have hmem : ∀ a ∈ spec.map Prod.fst, ∃ e ∈ spec, e.1 = a := fun a ha => List.mem_map.mp ha
  refine ⟨?_, hroot, ?_, ?_, fun e he _ => (hspec e he).2⟩
  · rw [install, FilterTable.linkRoot, hroot]
    exact Bool.or_true _
  · intro a ha
    obtain ⟨e, he, rfl⟩ := hmem a ha
    exact Option.isSome_iff_exists.mpr ⟨false, (hspec e he).1⟩
  · intro a ha
    obtain ⟨e, he, rfl⟩ := hmem a ha
    exact Option.isSome_iff_exists.mpr ⟨e.2, (hspec e he).2⟩

theorem install_placeholder (hnodup : (spec.map Prod.fst).Nodup) (t : FilterTable w) {a : Anchor}
    (ha : a ∈ spec.map Prod.fst) : (install spec t).placeholder a = some false := by
  obtain ⟨-, hspec, -⟩ := foldl_installAnchor spec t.createRoot rfl (by simpa)
  obtain ⟨e, he, rfl⟩ := List.mem_map.mp ha
  exact (hspec e he).1

theorem uninstall_linked (anchors : List Anchor) (t : FilterTable w) : (uninstall anchors t).linked = false := by
  have hfold : ∀ t : FilterTable w, (anchors.foldl (fun t a => uninstallAnchor a t) t).linked = t.linked := by
    intro t
    induction anchors generalizing t with
    | nil =>
      rfl
    | cons a anchors ih =>
      exact ih _
  exact hfold _

end

end FilterTable

end FreshVpn
