import Mathlib.Data.List.Forall2
import Mathlib.Data.List.Induction
import Mathlib.Data.List.Nodup
import ShardedSql.Configuration
import ShardedSql.Proofs.LoweredText
import ShardedSql.Proofs.Outcome

/-!
Configurations built from routes. A route names a table, however it is spelled and padded, and the
call of its strategy. Main statement: routes are accepted exactly if every table has a name, the
registry knows every strategy and no two names have one lower case; each route is then served by a
router of its own, and otherwise the first route at fault says why.
-/

namespace ShardedSql

open Text

/-- The name that the router of a route is kept by. -/
def Route.key (route : Route) : String :=
  lowerCase (trimmed route.table)

namespace Configuration

/-- Every table has a name, every strategy is known, and no two names have one lower case. -/
structure Admits (registry : StrategyRegistry) (routes : List Route) : Prop where
  named : ∀ route ∈ routes, trimmed route.table ≠ ""
  accepted : ∀ route ∈ routes, ∃ strategy, registry.build route.strategy = .ok strategy
  apart : (routes.map Route.key).Nodup

/-- What is wrong with a route behind other ones. A table without a name is found before a strategy
that is refused, and that before a table that has a route already. -/
inductive Offence (registry : StrategyRegistry) (earlier : List Route) (route : Route) :
    ShardError → Prop where
  | unnamed (blank : trimmed route.table = "") :
      Offence registry earlier route (.configuration .routeWithoutTable)
  | refused {reason : ShardError} (named : trimmed route.table ≠ "")
      (refused : registry.build route.strategy = .error reason) :
      Offence registry earlier route (inRoute (trimmed route.table) reason)
  | repeated {strategy : Strategy} (named : trimmed route.table ≠ "")
      (accepted : registry.build route.strategy = .ok strategy)
      (again : route.key ∈ earlier.map Route.key) :
      Offence registry earlier route (.configuration (.duplicateRoute (trimmed route.table)))

/-- What a configuration makes of the settings that it is built from: a router for each route, found
by every name that is the table of the route in lower case, and listed by table. -/
structure Answers (registry : StrategyRegistry) (settings : Settings) (config : Configuration) :
    Prop where
  settings_eq : config.settings = settings
  size_eq : config.routers.size = settings.routes.length
  finds : ∀ route ∈ settings.routes, ∀ name, lowerCase name = route.key →
    ∃ router, config.routers.get? name = some router ∧ router.table = route.key ∧
      registry.build route.strategy = .ok router.strategy
  lists : config.routers.sorted.Perm config.routers.routers
  increasing : config.routers.sorted.Pairwise fun left right => left.table < right.table

section Routes

variable {registry : StrategyRegistry} {routes earlier : List Route} {route : Route}
  {reason : ShardError}

theorem admits_nil : Admits registry [] :=
  ⟨nofun, nofun, .nil⟩

theorem admits_concat :
    Admits registry (earlier ++ [route]) ↔
      Admits registry earlier ∧ trimmed route.table ≠ "" ∧
        (∃ strategy, registry.build route.strategy = .ok strategy) ∧
        route.key ∉ earlier.map Route.key := by
  have keys : ((earlier ++ [route]).map Route.key).Nodup ↔
      route.key ∉ earlier.map Route.key ∧ (earlier.map Route.key).Nodup := by
    rw [List.map_append, List.map_singleton, List.nodup_append_comm, List.singleton_append,
      List.nodup_cons]
  constructor
  · rintro ⟨named, accepted, apart⟩
    simp only [List.forall_mem_append, List.forall_mem_singleton] at named accepted
    obtain ⟨fresh, apart⟩ := keys.mp apart
    exact ⟨⟨named.1, accepted.1, apart⟩, named.2, accepted.2, fresh⟩
  · rintro ⟨⟨named, accepted, apart⟩, name, strategy, fresh⟩
    refine ⟨?_, ?_, keys.mpr ⟨fresh, apart⟩⟩
    · simpa only [List.forall_mem_append, List.forall_mem_singleton] using ⟨named, name⟩
    · simpa only [List.forall_mem_append, List.forall_mem_singleton] using ⟨accepted, strategy⟩

theorem admits_or_offends (admits : Admits registry earlier) :
    Admits registry (earlier ++ [route]) ∨ ∃ reason, Offence registry earlier route reason := by
  by_cases named : trimmed route.table = ""
  · exact .inr ⟨_, .unnamed named⟩
  · cases build : registry.build route.strategy with
    | error cause => exact .inr ⟨_, .refused named build⟩
    | ok strategy =>
        by_cases again : route.key ∈ earlier.map Route.key
        · exact .inr ⟨_, .repeated named build again⟩
        · exact .inl (admits_concat.mpr ⟨admits, named, ⟨strategy, build⟩, again⟩)

/-- The first route at fault stands behind routes that are admitted. -/
def FirstOffence (registry : StrategyRegistry) (routes : List Route) (reason : ShardError) : Prop :=
  ∃ before route after, routes = before ++ route :: after ∧ Admits registry before ∧
    Offence registry before route reason

theorem admits_or_firstOffence (registry : StrategyRegistry) (routes : List Route) :
    Admits registry routes ∨ ∃ reason, FirstOffence registry routes reason := by
  induction routes using List.reverseRecOn with
  | nil => exact .inl admits_nil
  | append_singleton earlier route ih =>
      rcases ih with admits | ⟨reason, before, first, after, rfl, admits, offence⟩
      · rcases admits_or_offends admits with both | ⟨reason, offence⟩
        · exact .inl both
        · exact .inr ⟨reason, earlier, route, [], rfl, admits, offence⟩
      · exact .inr ⟨reason, before, first, after ++ [route], by simp, admits, offence⟩

end Routes

/-! ## One more route -/

/-- The router of a route. -/
def Serves (registry : StrategyRegistry) (route : Route) (router : Router) : Prop :=
  router.table = route.key ∧ registry.build route.strategy = .ok router.strategy

/-- A router for each of the routes, the latest first. -/
def Holds (registry : StrategyRegistry) (routes : List Route) (routers : RouterTable) : Prop :=
  List.Forall₂ (Serves registry) routes routers.routers.reverse

section Step

variable {registry : StrategyRegistry} {routes earlier : List Route} {route : Route}
  {routers : RouterTable} {reason : ShardError}

theorem addRoute_unnamed (blank : trimmed route.table = "") :
    addRoute registry routers route = .error (.configuration .routeWithoutTable) := by
  simp only [addRoute, blank]
  rfl

theorem addRoute_refused (named : trimmed route.table ≠ "")
    (refused : registry.build route.strategy = .error reason) :
    addRoute registry routers route = .error (inRoute (trimmed route.table) reason) := by
  have full : ¬ (trimmed route.table).isEmpty = true := by rwa [String.isEmpty_iff]
  simp only [addRoute, if_neg full, refused]
  rfl

theorem addRoute_accepted {strategy : Strategy} (named : trimmed route.table ≠ "")
    (accepted : registry.build route.strategy = .ok strategy) :
    addRoute registry routers route =
      if (routers.find? route.key).isSome then
        .error (.configuration (.duplicateRoute (trimmed route.table)))
      else .ok (routers.insert ⟨route.key, strategy⟩) := by
  have full : ¬ (trimmed route.table).isEmpty = true := by rwa [String.isEmpty_iff]
  simp only [addRoute, if_neg full, accepted]
  change (if (routers.find? route.key).isSome = true then _ else _) = _
  split <;> rfl

variable (holds : Holds registry earlier routers)

include holds

theorem Holds.tables : routers.routers.reverse.map (·.table) = earlier.map Route.key := by
  unfold Holds at holds
  generalize routers.routers.reverse = served at holds ⊢
  induction holds with
  | nil => rfl
  | cons serves _ ih => rw [List.map_cons, List.map_cons, serves.1, ih]

theorem Holds.mem_tables_iff {key : String} :
    (∃ router ∈ routers.routers, router.table = key) ↔ key ∈ earlier.map Route.key := by
  rw [← holds.tables, List.map_reverse, List.mem_reverse, List.mem_map]

theorem Holds.isSome_find?_iff {key : String} :
    (routers.find? key).isSome = true ↔ key ∈ earlier.map Route.key := by
  rw [← holds.mem_tables_iff, RouterTable.find?, List.find?_isSome]
  simp only [beq_iff_eq]

/-- A router for a table that has none is put before the others. -/
theorem Holds.insert {router : Router} (fresh : route.key ∉ earlier.map Route.key)
    (serves : Serves registry route router) :
    Holds registry (earlier ++ [route]) (routers.insert router) := by
  have others : routers.routers.filter (·.table != router.table) = routers.routers := by
    rw [List.filter_eq_self]
    intro other member
    rw [bne_iff_ne, serves.1]
    exact fun same => fresh (holds.mem_tables_iff.mp ⟨other, member, same⟩)
  rw [Holds, RouterTable.insert, others, List.reverse_cons]
  exact List.rel_append holds (.cons serves .nil)

theorem Holds.addRoute_ok (admits : Admits registry (earlier ++ [route])) :
    ∃ added, addRoute registry routers route = .ok added ∧
      Holds registry (earlier ++ [route]) added := by
  obtain ⟨_, named, ⟨strategy, accepted⟩, fresh⟩ := admits_concat.mp admits
  refine ⟨routers.insert ⟨route.key, strategy⟩, ?_, holds.insert fresh ⟨rfl, accepted⟩⟩
  rw [addRoute_accepted named accepted, if_neg fun found => fresh (holds.isSome_find?_iff.mp found)]

theorem Holds.addRoute_error (offence : Offence registry earlier route reason) :
    addRoute registry routers route = .error reason := by
  cases offence with
  | unnamed blank => exact addRoute_unnamed blank
  | refused named refused => exact addRoute_refused named refused
  | repeated named accepted again =>
      rw [addRoute_accepted named accepted, if_pos (holds.isSome_find?_iff.mpr again)]

end Step

/-! ## Routers by their tables -/

section Tables

variable {registry : StrategyRegistry} {routes : List Route} {routers : RouterTable}

theorem Holds.exists_router (holds : Holds registry routes routers) {route : Route}
    (member : route ∈ routes) : ∃ router ∈ routers.routers, Serves registry route router := by
  unfold Holds at holds
  simp only [← @List.mem_reverse _ _ routers.routers]
  generalize routers.routers.reverse = served at holds ⊢
  induction holds with
  | nil => cases member
  | cons serves _ ih =>
      rcases List.mem_cons.mp member with rfl | later
      · exact ⟨_, List.mem_cons_self, serves⟩
      · obtain ⟨router, inside, serves⟩ := ih later
        exact ⟨router, List.mem_cons_of_mem _ inside, serves⟩

/-- Tables tell routers apart. -/
def Apart (routers : RouterTable) : Prop :=
  (routers.routers.map (·.table)).Nodup

theorem Holds.apart (holds : Holds registry routes routers) (admits : Admits registry routes) :
    Apart routers := by
  have apart := admits.apart
  rwa [← holds.tables, List.map_reverse, List.nodup_reverse] at apart

theorem Apart.find?_eq_some_iff (apart : Apart routers) {key : String} {router : Router} :
    routers.find? key = some router ↔ router ∈ routers.routers ∧ router.table = key := by
  have table {found : Router} (look : routers.find? key = some found) : found.table = key := by
    simpa using List.find?_some look
  constructor
  · exact fun look => ⟨List.mem_of_find?_eq_some look, table look⟩
  · rintro ⟨member, same⟩
    have found : (routers.find? key).isSome = true :=
      List.find?_isSome.mpr ⟨router, member, by simp [same]⟩
    obtain ⟨other, look⟩ := Option.isSome_iff_exists.mp found
    rw [look, Option.some_inj]
    exact List.inj_on_of_nodup_map apart (List.mem_of_find?_eq_some look) member
      ((table look).trans same.symm)

theorem Apart.increasing (apart : Apart routers) :
    routers.sorted.Pairwise fun left right => left.table < right.table := by
  rw [RouterTable.sorted, List.pairwise_filterMap]
  refine (NameSet.ofList _).sorted.imp fun below left first right second => ?_
  rwa [(apart.find?_eq_some_iff.mp first).2, (apart.find?_eq_some_iff.mp second).2]

theorem Apart.mem_sorted_iff (apart : Apart routers) {router : Router} :
    router ∈ routers.sorted ↔ router ∈ routers.routers := by
  simp only [RouterTable.sorted, List.mem_filterMap, apart.find?_eq_some_iff, ← NameSet.mem_def,
    NameSet.mem_ofList]
  constructor
  · rintro ⟨_, _, member, _⟩
    exact member
  · exact fun member => ⟨router.table, List.mem_map_of_mem member, member, rfl⟩

theorem Apart.sorted_perm (apart : Apart routers) : routers.sorted.Perm routers.routers := by
  have once : routers.sorted.Nodup := by
    refine apart.increasing.imp fun below same => ?_
    exact absurd (same ▸ below) (String.lt_irrefl _)
  exact (List.perm_ext_iff_of_nodup once (List.Nodup.of_map _ apart)).mpr fun _ =>
    apart.mem_sorted_iff

end Tables

/-! ## All routes -/

section Run

variable {registry : StrategyRegistry} {routes : List Route} {settings : Settings}
  {reason : ShardError}

theorem exists_routers (admits : Admits registry routes) :
    ∃ routers, routes.foldlM (addRoute registry) .empty = .ok routers ∧
      Holds registry routes routers := by
  induction routes using List.reverseRecOn with
  | nil => exact ⟨.empty, rfl, .nil⟩
  | append_singleton earlier route ih =>
      obtain ⟨routers, run, holds⟩ := ih (admits_concat.mp admits).1
      obtain ⟨added, step, holds⟩ := holds.addRoute_ok admits
      refine ⟨added, ?_, holds⟩
      rw [List.foldlM_append]
      exact bind_eq_ok.mpr ⟨routers, run, bind_eq_ok.mpr ⟨added, step, rfl⟩⟩

theorem exists_build (admits : Admits registry settings.routes) :
    ∃ config, build registry settings = .ok config ∧ Answers registry settings config := by
  obtain ⟨routers, run, holds⟩ := exists_routers admits
  have apart := holds.apart admits
  refine ⟨⟨settings, routers⟩, ?_, rfl, ?_, ?_, apart.sorted_perm, apart.increasing⟩
  · rw [build, run]
    rfl
  · rw [RouterTable.size, ← List.length_reverse, List.Forall₂.length_eq holds]
  · intro route member name same
    obtain ⟨router, inside, table, strategy⟩ := holds.exists_router member
    refine ⟨router, ?_, table, strategy⟩
    rw [RouterTable.get?, same]
    exact apart.find?_eq_some_iff.mpr ⟨inside, table⟩

theorem build_of_firstOffence (offence : FirstOffence registry settings.routes reason) :
    build registry settings = .error reason := by
  obtain ⟨before, route, after, whole, admits, offence⟩ := offence
  obtain ⟨routers, run, holds⟩ := exists_routers admits
  rw [build, whole, foldlM_eq_error run (holds.addRoute_error offence)]
  rfl

/-- A configuration is built exactly if its routes are admitted, and then answers for each of them;
otherwise the first route at fault is the reason. -/
theorem build_validates (registry : StrategyRegistry) (settings : Settings) :
    ((∃ config, build registry settings = .ok config) ↔ Admits registry settings.routes) ∧
      (∀ config, build registry settings = .ok config → Answers registry settings config) ∧
      ∀ reason, build registry settings = .error reason ↔
        FirstOffence registry settings.routes reason := by
  rcases admits_or_firstOffence registry settings.routes with admits | ⟨first, offence⟩
  · obtain ⟨config, built, answers⟩ := exists_build admits
    refine ⟨⟨fun _ => admits, fun _ => ⟨config, built⟩⟩, fun other same => ?_, fun reason => ?_⟩
    · rw [built] at same
      cases same
      exact answers
    · constructor
      · intro failed
        rw [built] at failed
        cases failed
      · exact fun offence => build_of_firstOffence offence
  · have failed := build_of_firstOffence offence
    refine ⟨⟨?_, fun admits => ?_⟩, fun config built => ?_, fun reason => ?_⟩
    · rintro ⟨config, built⟩
      rw [failed] at built
      cases built
    · obtain ⟨config, built, _⟩ := exists_build admits
      exact ⟨config, built⟩
    · rw [failed] at built
      cases built
    · refine ⟨fun same => ?_, fun offence => build_of_firstOffence offence⟩
      rw [failed] at same
      cases same
      exact offence

end Run

/-- Two routes, one of them padded and in capitals. -/
def twoRoutes : Settings :=
  { Settings.default with
    routes := [⟨" Orders ", "mod(user_id, 4)"⟩, ⟨"events", "month(created)"⟩] }

theorem build_modulo :
    StrategyRegistry.default.build "mod(user_id, 4)" = .ok (.modulo "user_id" 4 (by decide)) := by
  with_unfolding_all rfl

theorem admits_twoRoutes : Admits .default twoRoutes.routes := by
  constructor
  · decide +kernel
  · have month : StrategyRegistry.default.build "month(created)" = .ok (.month "created") := by
      with_unfolding_all rfl
    simp [twoRoutes, build_modulo, month]
  · decide +kernel

/-- The table of the first route is found in capitals, and a third route for it is at fault. -/
theorem build_validates_twoRoutes :
    (∃ config, build .default twoRoutes = .ok config ∧ config.routers.size = 2 ∧
      ∃ router, config.routers.get? "ORDERS" = some router ∧
        router.strategy = .modulo "user_id" 4 (by decide)) ∧
      build .default { twoRoutes with routes := twoRoutes.routes ++ [⟨"ORDERS", "val(id)"⟩] } =
        .error (.configuration (.duplicateRoute "ORDERS")) := by
  constructor
  · obtain ⟨accepted, answers, _⟩ := build_validates .default twoRoutes
    obtain ⟨config, built⟩ := accepted.mpr admits_twoRoutes
    obtain ⟨_, size, finds, _, _⟩ := answers config built
    have spelled : lowerCase "ORDERS" = Route.key ⟨" Orders ", "mod(user_id, 4)"⟩ := by
      decide +kernel
    obtain ⟨router, found, _, strategy⟩ := finds _ List.mem_cons_self "ORDERS" spelled
    rw [build_modulo, Except.ok.injEq] at strategy
    exact ⟨config, built, size, router, found, strategy.symm⟩
  · have table : trimmed "ORDERS" = "ORDERS" := by decide +kernel
    have value : StrategyRegistry.default.build "val(id)" = .ok (.value "id") := by
      with_unfolding_all rfl
    have offence : Offence .default twoRoutes.routes ⟨"ORDERS", "val(id)"⟩
        (.configuration (.duplicateRoute (trimmed "ORDERS"))) :=
      .repeated (by decide +kernel) value (by decide +kernel)
    rw [table] at offence
    apply ((build_validates .default _).2.2 _).mpr
    exact ⟨twoRoutes.routes, _, [], rfl, admits_twoRoutes, offence⟩

end Configuration

end ShardedSql
