import Mathlib.Data.List.Forall2
import SoftRouter.Proofs.Mode
import SoftRouter.Proofs.RouteLines
import SoftRouter.Proofs.Soundness

/-!
# Starting a router

A start goes through the interfaces, the route file and the routes, and fails at the first that something is wrong with
(`Config.Refuses`). If nothing is (`Config.Ready`), the routes of the file decide what the router does: it keeps to
them or, if there are none, runs the routing protocol from its connected networks (`Config.Opens`).
-/

namespace SoftRouter

/-- The interface is the configured one, with its MAC address read. -/
structure InterfaceConfig.Builds (i : InterfaceConfig) (x : Interface) : Prop where
  mac : Mac.parse i.mac = .ok x.mac
  same : x = ⟨i.name, x.mac, i.ip, i.mask⟩

/-- The MAC addresses can be read and the names differ. -/
structure InterfacesSound (l : List InterfaceConfig) : Prop where
  macs : ∀ i ∈ l, ∃ mac, Mac.parse i.mac = .ok mac
  names : (l.map InterfaceConfig.name).Nodup

/-- What is wrong with an interface behind others. Its MAC address is looked at first. -/
inductive InterfaceFault (before : List InterfaceConfig) (i : InterfaceConfig) : StartupError → Prop where
  | badMac {cause : MacError} (bad : Mac.parse i.mac = .error cause) :
      InterfaceFault before i (.badMac i.name i.mac cause)
  | duplicate {mac : Mac} (good : Mac.parse i.mac = .ok mac) (taken : i.name ∈ before.map InterfaceConfig.name) :
      InterfaceFault before i (.duplicateInterface i.name)

/-- What configured interfaces and those built from them have in common is the same for both. -/
theorem map_eq_of_builds {β : Type} {f : Interface → β} {g : InterfaceConfig → β}
    (common : ∀ i x, i.Builds x → f x = g i) {l : List InterfaceConfig} {built : List Interface}
    (builds : List.Forall₂ InterfaceConfig.Builds l built) : built.map f = l.map g := by
  induction builds with
  | nil => rfl
  | cons first _ ih => rw [List.map_cons, List.map_cons, common _ _ first, ih]

namespace InterfaceTable

/-- The table holds the configured interfaces and no others. -/
def Holds (t : InterfaceTable) (l : List InterfaceConfig) : Prop :=
  ∃ built, List.Forall₂ InterfaceConfig.Builds l built ∧ t.toList.Perm built

theorem contains_iff {t : InterfaceTable} {name : String} :
    contains t name ↔ name ∈ t.toList.map Interface.name := by
  constructor
  · intro known
    obtain ⟨i, found⟩ := exists_of_contains known
    exact List.mem_map.2 ⟨i, Keyed.mem_of_find? found, Keyed.key_of_find? found⟩
  · intro mem
    obtain ⟨i, there, rfl⟩ := List.mem_map.1 mem
    exact contains_of_mem there

theorem holds_empty : Holds .empty [] := ⟨[], .nil, .refl []⟩

section
variable {t : InterfaceTable} {l : List InterfaceConfig} (holds : t.Holds l)
include holds

theorem Holds.perm_map {β : Type} {f : Interface → β} {g : InterfaceConfig → β}
    (common : ∀ i x, InterfaceConfig.Builds i x → f x = g i) : (t.toList.map f).Perm (l.map g) := by
  obtain ⟨built, builds, perm⟩ := holds
  exact map_eq_of_builds common builds ▸ perm.map f

theorem Holds.names : (t.toList.map Interface.name).Perm (l.map InterfaceConfig.name) :=
  holds.perm_map fun _ _ builds => congrArg Interface.name builds.same

theorem Holds.contains_iff {name : String} : contains t name ↔ name ∈ l.map InterfaceConfig.name := by
  rw [InterfaceTable.contains_iff, holds.names.mem_iff]

theorem Holds.sound : InterfacesSound l := by
  refine ⟨?_, ?_⟩
  · obtain ⟨built, builds, -⟩ := holds
    exact ((List.forall₂_and_left _ _).1 (builds.imp fun i x builds => ⟨⟨x.mac, builds.mac⟩, builds⟩)).1
  · rw [← holds.names.nodup_iff, List.Nodup, List.pairwise_map]
    exact t.ascending.imp fun {a b} lt (same : a.name = b.name) => Std.lt_irrefl (same ▸ lt)

theorem Holds.addTo {i : InterfaceConfig} {next : InterfaceTable} (added : i.addTo t = .ok next) :
    next.Holds (l ++ [i]) := by
  simp only [InterfaceConfig.addTo, bind_eq_ok_iff, mapError_eq_ok_iff] at added
  obtain ⟨mac, read, put⟩ := added
  unfold add at put
  split at put
  · cases put
  rename_i new
  cases put
  obtain ⟨built, builds, perm⟩ := holds
  refine ⟨built ++ [⟨i.name, mac, i.ip, i.mask⟩], List.rel_append builds (.cons ⟨read, rfl⟩ .nil), ?_⟩
  have absent : t.find? i.name = none := by simpa [contains] using new
  exact ((Keyed.perm_put absent).trans (perm.cons _)).trans (List.perm_append_singleton _ _).symm

theorem Holds.addTo_eq_error_iff {i : InterfaceConfig} {e : StartupError} :
    i.addTo t = .error e ↔ InterfaceFault l i e := by
  simp only [InterfaceConfig.addTo, bind_eq_error_iff, mapError_eq_error_iff, mapError_eq_ok_iff, add]
  constructor
  · rintro (⟨cause, bad, rfl⟩ | ⟨mac, good, put⟩)
    · exact .badMac bad
    · split at put
      · cases put
        exact .duplicate good (holds.contains_iff.1 ‹_›)
      · cases put
  · rintro (bad | ⟨good, taken⟩)
    · exact .inl ⟨_, bad, rfl⟩
    · exact .inr ⟨_, good, if_pos (holds.contains_iff.2 taken)⟩

/-- An interface is added unless something is wrong with it. -/
theorem Holds.exists_addTo {i : InterfaceConfig} (sound : InterfacesSound (l ++ [i])) :
    ∃ next, i.addTo t = .ok next := by
  cases added : i.addTo t with
  | ok next => exact ⟨next, rfl⟩
  | error e =>
    exfalso
    cases holds.addTo_eq_error_iff.1 added with
    | badMac bad =>
      obtain ⟨mac, good⟩ := sound.macs i (by simp)
      cases good.symm.trans bad
    | duplicate _ taken =>
      have names := sound.names
      rw [List.map_append, List.nodup_append] at names
      exact names.2.2 _ taken _ (by simp) rfl

end

end InterfaceTable

theorem InterfacesSound.front {l rest : List InterfaceConfig} (sound : InterfacesSound (l ++ rest)) :
    InterfacesSound l := by
  refine ⟨fun i mem => sound.macs i (List.mem_append_left _ mem), ?_⟩
  exact List.Nodup.of_append_left (List.map_append ▸ sound.names)

namespace Config

theorem holds_of_foldlM {l : List InterfaceConfig} {t : InterfaceTable}
    (built : l.foldlM (fun t i => i.addTo t) .empty = .ok t) : t.Holds l := by
  induction l using List.reverseRecOn generalizing t with
  | nil =>
    cases built
    exact InterfaceTable.holds_empty
  | append_singleton l i ih =>
    rw [List.foldlM_append, bind_eq_ok_iff] at built
    obtain ⟨front, earlier, last⟩ := built
    rw [List.foldlM_cons, bind_eq_ok_iff] at last
    obtain ⟨next, added, done⟩ := last
    cases done
    exact (ih earlier).addTo added

theorem exists_foldlM_of_sound {l : List InterfaceConfig} (sound : InterfacesSound l) :
    ∃ t, l.foldlM (fun t i => i.addTo t) (Keyed.empty : InterfaceTable) = .ok t := by
  induction l using List.reverseRecOn with
  | nil => exact ⟨_, rfl⟩
  | append_singleton l i ih =>
    obtain ⟨front, earlier⟩ := ih sound.front
    obtain ⟨next, added⟩ := (holds_of_foldlM earlier).exists_addTo sound
    refine ⟨next, ?_⟩
    rw [List.foldlM_append, earlier]
    exact bind_eq_ok_iff.2 ⟨front, rfl, bind_eq_ok_iff.2 ⟨next, added, rfl⟩⟩

variable {c : Config}

theorem exists_interfaceTable_iff : (∃ t, c.interfaceTable = .ok t) ↔ InterfacesSound c.interfaces :=
  ⟨fun ⟨_, built⟩ => (holds_of_foldlM built).sound, exists_foldlM_of_sound⟩

/-- The first interface that something is wrong with is the one reported. -/
theorem interfaceTable_eq_error_iff {e : StartupError} : c.interfaceTable = .error e ↔
    ∃ before i after, c.interfaces = before ++ i :: after ∧ InterfacesSound before ∧ InterfaceFault before i e := by
  rw [interfaceTable, foldlM_eq_error_iff]
  constructor
  · rintro ⟨before, i, after, t, split, earlier, failed⟩
    have holds := holds_of_foldlM earlier
    exact ⟨before, i, after, split, holds.sound, holds.addTo_eq_error_iff.1 failed⟩
  · rintro ⟨before, i, after, split, sound, fault⟩
    obtain ⟨t, earlier⟩ := exists_foldlM_of_sound sound
    exact ⟨before, i, after, t, split, earlier, (holds_of_foldlM earlier).addTo_eq_error_iff.2 fault⟩

/-! ## Routes -/

/-- The route file gives these routes; without one there are none. -/
inductive GivesRoutes (c : Config) (content : FileContent) : List RouteEntry → Prop where
  | none (absent : c.routeFile = none) : GivesRoutes c content []
  | file {path text : String} {routes : List RouteEntry} (named : c.routeFile = some path)
      (read : content.text = .ok text) (lists : RouteFile.Lists (Blank.lines text) routes) :
      GivesRoutes c content routes

/-- The route table that a router starts with, and the number of routes in the route file. -/
def loadRoutes (c : Config) (content : FileContent) : Except StartupError (RouteTable × Option Nat) :=
  match c.routeFile with
  | some path => do
    let (routes, count) ← RouteTable.load {} path content
    return (routes, some count)
  | none => return ({}, none)

theorem start_eq (c : Config) (content : FileContent) : start c content = (do
    let interfaces ← c.interfaceTable
    let (routes, loaded) ← c.loadRoutes content
    let router ← Router.create interfaces routes
    return { router := router.init.1, loaded, events := router.init.2 }) := by
  rw [start, loadRoutes]
  refine congrArg (c.interfaceTable >>= ·) (funext fun interfaces => ?_)
  cases c.routeFile with
  | none => rfl
  | some path => cases read : RouteTable.load {} path content <;> simp only [read] <;> rfl

variable {content : FileContent}

theorem loadRoutes_eq_ok_iff {loaded : RouteTable × Option Nat} : c.loadRoutes content = .ok loaded ↔
    ∃ routes, c.GivesRoutes content routes ∧ loaded = (⟨routes⟩, c.routeFile.map fun _ => routes.length) := by
  rw [loadRoutes]
  cases named : c.routeFile with
  | none =>
    constructor
    · rintro ⟨⟩
      exact ⟨[], .none named, rfl⟩
    · rintro ⟨routes, absent | ⟨other, _, _⟩, rfl⟩
      · rfl
      · cases named.symm.trans other
  | some path =>
    simp only [bind_eq_ok_iff, RouteTable.load_eq_ok_iff]
    constructor
    · rintro ⟨_, ⟨text, routes, read, lists, rfl⟩, ⟨⟩⟩
      refine ⟨routes, .file named read lists, ?_⟩
      cases routes <;> rfl
    · rintro ⟨routes, absent | ⟨other, read, lists⟩, rfl⟩
      · cases named.symm.trans absent
      · refine ⟨_, ⟨_, routes, read, lists, rfl⟩, ?_⟩
        cases routes <;> rfl

theorem loadRoutes_eq_error_iff {e : StartupError} : c.loadRoutes content = .error e ↔
    ∃ path, c.routeFile = some path ∧ RouteFile.Unusable path content e := by
  rw [loadRoutes]
  cases named : c.routeFile with
  | none => exact iff_of_false nofun nofun
  | some path =>
    simp only [bind_eq_error_iff, RouteTable.load_eq_error_iff]
    constructor
    · rintro (unusable | ⟨_, _, ⟨⟩⟩)
      exact ⟨path, rfl, unusable⟩
    · rintro ⟨_, ⟨⟩, unusable⟩
      exact .inl unusable

end Config

namespace Router

variable {interfaces : InterfaceTable} {routes : List RouteEntry}

theorem create_eq_ok_iff {r : Router} : create interfaces ⟨routes⟩ = .ok r ↔
    (∀ e ∈ routes, InterfaceTable.contains interfaces e.interface) ∧ r = { interfaces, routes := ⟨routes⟩ } := by
  rw [create, mapError_eq_ok_iff, make_eq_ok_iff]

/-- The first route that no interface carries is the one reported. -/
theorem create_eq_error_iff {fault : StartupError} : create interfaces ⟨routes⟩ = .error fault ↔
    ∃ before e after, routes = before ++ e :: after ∧
      (∀ x ∈ before, InterfaceTable.contains interfaces x.interface) ∧
      ¬ InterfaceTable.contains interfaces e.interface ∧ fault = .unknownInterface e.interface := by
  rw [create, mapError_eq_error_iff, make, RouteTable.unknownInterface?]
  constructor
  · rintro ⟨name, made, rfl⟩
    cases lacking : routes.find? fun e => !InterfaceTable.contains interfaces e.interface with
    | none =>
      rw [lacking] at made
      cases made
    | some e =>
      rw [lacking] at made
      cases made
      obtain ⟨unknown, before, after, rfl, earlier⟩ := List.find?_eq_some_iff_append.1 lacking
      exact ⟨before, e, after, rfl, by simpa using earlier, by simpa using unknown, rfl⟩
  · rintro ⟨before, e, after, rfl, earlier, unknown, rfl⟩
    have lacking : (before ++ e :: after).find? (fun e => !InterfaceTable.contains interfaces e.interface) = some e :=
      List.find?_eq_some_iff_append.2 ⟨by simpa using unknown, before, after, rfl, by simpa using earlier⟩
    exact ⟨e.interface, by rw [lacking]; rfl, rfl⟩

end Router

/-! ## The start -/

/-- The connected network of a configured interface. -/
def InterfaceConfig.connected (i : InterfaceConfig) : RouteEntry :=
  ⟨i.ip.masked i.mask, i.mask, .unspecified, i.name, 0, none⟩

/-- Nothing stands in the way of a start with these routes. -/
structure Config.Ready (c : Config) (content : FileContent) (routes : List RouteEntry) : Prop where
  interfaces : InterfacesSound c.interfaces
  gives : c.GivesRoutes content routes
  known : ∀ e ∈ routes, e.interface ∈ c.interfaces.map InterfaceConfig.name

/-- What stands in the way of a start: the first interface that is wrong, else the route file, else the first route
that no interface carries. -/
inductive Config.Refuses (c : Config) (content : FileContent) : StartupError → Prop where
  | interface {before after : List InterfaceConfig} {i : InterfaceConfig} {e : StartupError}
      (interfaces : c.interfaces = before ++ i :: after) (earlier : InterfacesSound before)
      (fault : InterfaceFault before i e) : Refuses c content e
  | file {path : String} {e : StartupError} (interfaces : InterfacesSound c.interfaces)
      (named : c.routeFile = some path) (unusable : RouteFile.Unusable path content e) : Refuses c content e
  | route {before after : List RouteEntry} {e : RouteEntry} (interfaces : InterfacesSound c.interfaces)
      (gives : c.GivesRoutes content (before ++ e :: after))
      (earlier : ∀ x ∈ before, x.interface ∈ c.interfaces.map InterfaceConfig.name)
      (unknown : e.interface ∉ c.interfaces.map InterfaceConfig.name) :
      Refuses c content (.unknownInterface e.interface)

/-- The router keeps to the routes it was given, or else runs the routing protocol from its connected networks, which
are in the order of the names of the interfaces. -/
structure Config.Opens (c : Config) (routes : List RouteEntry) (r : Router) : Prop where
  static : routes ≠ [] → r.routes.entries = routes ∧ r.rip = .idle
  dynamic : routes = [] → r.rip = .running ∧ r.routes.entries.Perm (c.interfaces.map InterfaceConfig.connected) ∧
    r.routes.entries.Pairwise fun a b => a.interface < b.interface

namespace Config

variable {c : Config} {content : FileContent}

theorem start_eq_ok_iff {s : Started} : start c content = .ok s ↔ ∃ interfaces routes,
    c.interfaceTable = .ok interfaces ∧ c.GivesRoutes content routes ∧
      (∀ e ∈ routes, InterfaceTable.contains interfaces e.interface) ∧
      s = { router := (Router.init { interfaces, routes := ⟨routes⟩ }).1
            loaded := c.routeFile.map fun _ => routes.length
            events := (Router.init { interfaces, routes := ⟨routes⟩ }).2 } := by
  simp only [start_eq, bind_eq_ok_iff, loadRoutes_eq_ok_iff]
  constructor
  · rintro ⟨interfaces, built, _, ⟨routes, gives, rfl⟩, r, created, ⟨⟩⟩
    obtain ⟨known, rfl⟩ := Router.create_eq_ok_iff.1 created
    exact ⟨interfaces, routes, built, gives, known, rfl⟩
  · rintro ⟨interfaces, routes, built, gives, known, rfl⟩
    exact ⟨interfaces, built, _, ⟨routes, gives, rfl⟩, _, Router.create_eq_ok_iff.2 ⟨known, rfl⟩, rfl⟩

theorem start_eq_error_iff {e : StartupError} : start c content = .error e ↔ c.Refuses content e := by
  simp only [start_eq, bind_eq_error_iff, interfaceTable_eq_error_iff, loadRoutes_eq_error_iff, loadRoutes_eq_ok_iff]
  constructor
  · rintro (⟨before, i, after, split, earlier, fault⟩ | ⟨interfaces, built, rest⟩)
    · exact .interface split earlier fault
    have holds := holds_of_foldlM built
    rcases rest with ⟨path, named, unusable⟩ | ⟨_, ⟨routes, gives, rfl⟩, refused | ⟨_, _, ⟨⟩⟩⟩
    · exact .file holds.sound named unusable
    obtain ⟨before, x, after, rfl, earlier, unknown, rfl⟩ := Router.create_eq_error_iff.1 refused
    exact .route holds.sound gives (fun y mem => holds.contains_iff.1 (earlier y mem))
      (fun mem => unknown (holds.contains_iff.2 mem))
  · rintro (⟨split, earlier, fault⟩ | ⟨sound, named, unusable⟩ | ⟨sound, gives, earlier, unknown⟩)
    · exact .inl ⟨_, _, _, split, earlier, fault⟩
    · obtain ⟨interfaces, built⟩ := exists_interfaceTable_iff.2 sound
      exact .inr ⟨interfaces, built, .inl ⟨_, named, unusable⟩⟩
    · obtain ⟨interfaces, built⟩ := exists_interfaceTable_iff.2 sound
      have holds := holds_of_foldlM built
      refine .inr ⟨interfaces, built, .inr ⟨_, ⟨_, gives, rfl⟩, .inl ?_⟩⟩
      exact Router.create_eq_error_iff.2 ⟨_, _, _, rfl, fun y mem => holds.contains_iff.2 (earlier y mem),
        fun there => unknown (holds.contains_iff.1 there), rfl⟩

theorem opens_init {interfaces : InterfaceTable} (holds : interfaces.Holds c.interfaces) (routes : List RouteEntry) :
    c.Opens routes (Router.init { interfaces, routes := ⟨routes⟩ }).1 := by
  refine ⟨?_, ?_⟩
  · intro filled
    rw [Router.init_of_routes rfl filled]
    exact ⟨rfl, rfl⟩
  · rintro rfl
    obtain ⟨running, entries, -⟩ := Router.opens_init (r := { interfaces, routes := ⟨[]⟩ }) rfl rfl
    rw [entries]
    refine ⟨running, holds.perm_map ?_, ?_⟩
    · intro i x builds
      rw [builds.same]
      rfl
    · rw [List.pairwise_map]
      exact interfaces.ascending

end Config

/-- A router starts exactly when nothing stands in its way, and then keeps to the routes of the file or, if there are
none, runs the routing protocol from its connected networks. Else what stands in its way first is reported. -/
theorem starts_or_refuses (c : Config) (content : FileContent) :
    ((∃ s, start c content = .ok s) ↔ ∃ routes, c.Ready content routes) ∧
      (∀ routes, c.Ready content routes → ∃ s, start c content = .ok s ∧ c.Opens routes s.router) ∧
      ∀ e, start c content = .error e ↔ c.Refuses content e := by
  have opens : ∀ routes, c.Ready content routes → ∃ s, start c content = .ok s ∧ c.Opens routes s.router := by
    intro routes ready
    obtain ⟨interfaces, built⟩ := Config.exists_interfaceTable_iff.2 ready.interfaces
    have holds := Config.holds_of_foldlM built
    have known : ∀ e ∈ routes, InterfaceTable.contains interfaces e.interface :=
      fun e mem => holds.contains_iff.2 (ready.known e mem)
    exact ⟨_, Config.start_eq_ok_iff.2 ⟨interfaces, routes, built, ready.gives, known, rfl⟩,
      Config.opens_init holds routes⟩
  refine ⟨⟨?_, ?_⟩, opens, fun _ => Config.start_eq_error_iff⟩
  · rintro ⟨s, started⟩
    obtain ⟨interfaces, routes, built, gives, known, -⟩ := Config.start_eq_ok_iff.1 started
    have holds := Config.holds_of_foldlM built
    exact ⟨routes, holds.sound, gives, fun e mem => holds.contains_iff.1 (known e mem)⟩
  · rintro ⟨routes, ready⟩
    obtain ⟨s, started, -⟩ := opens routes ready
    exact ⟨s, started⟩

/-- A route file and two interfaces, not in the order of their names. -/
def unsortedConfig : Config where
  routeFile := some "rtable"
  interfaces := [⟨"eth1", "02:00:00:00:00:02", .ofOctets 10 0 1 1, .ofOctets 255 255 255 0, none, none⟩,
    ⟨"eth0", "02:00:00:00:00:01", .ofOctets 10 0 0 1, .ofOctets 255 255 255 0, none, none⟩]

theorem unsortedConfig_sound : InterfacesSound unsortedConfig.interfaces := by
  refine ⟨?_, by decide⟩
  rintro i (_ | ⟨_, _ | ⟨_, ⟨⟩⟩⟩) <;> exact ⟨_, rfl⟩

/-- A file of comments. -/
def commentsFile : String := "# none\n"

/-- A file whose second route needs an interface that is not configured. -/
def strayFile : String := "10.9.0.0 0.0.0.0 255.255.0.0 eth1\n10.8.0.0 0.0.0.0 255.255.0.0 eth2\n"

/-- With a file of comments alone the router runs the routing protocol; with a route on a third interface it does not
start. -/
theorem unsortedConfig_starts_or_refuses :
    (∃ s, start unsortedConfig (.ok commentsFile.toUTF8.data.toList) = .ok s ∧ unsortedConfig.Opens [] s.router) ∧
      start unsortedConfig (.ok strayFile.toUTF8.data.toList) = .error (.unknownInterface "eth2") := by
  have comments : RouteFile.Lists (Blank.lines commentsFile) [] :=
    RouteFile.parseLines_eq_ok_iff.1 (show RouteFile.parseLines 1 _ = _ by decide +kernel)
  have stray : RouteFile.Lists (Blank.lines strayFile)
      ([⟨.ofOctets 10 9 0 0, .ofOctets 255 255 0 0, .unspecified, "eth1", 0, none⟩] ++
        ⟨.ofOctets 10 8 0 0, .ofOctets 255 255 0 0, .unspecified, "eth2", 0, none⟩ :: []) :=
    RouteFile.parseLines_eq_ok_iff.1 (show RouteFile.parseLines 1 _ = _ by decide +kernel)
  have starts := (starts_or_refuses unsortedConfig (.ok commentsFile.toUTF8.data.toList)).2.1
  have refuses := (starts_or_refuses unsortedConfig (.ok strayFile.toUTF8.data.toList)).2.2
  refine ⟨starts [] ⟨unsortedConfig_sound, .file rfl (FileContent.text_utf8 _) comments, nofun⟩, ?_⟩
  exact (refuses _).2
    (.route unsortedConfig_sound (.file rfl (FileContent.text_utf8 _) stray) (by decide) (by decide))

end SoftRouter
