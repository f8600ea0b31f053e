import Tierd.Data.Runs
import Tierd.Data.Text

namespace Tierd.Plugin.Proxy

open Tierd.Data

def confDir : Text := "/etc/nginx/conf.d/plugins.d"

def baseConfPath : Text := "/etc/nginx/conf.d/smoothnas-plugins-base.conf"

structure ProxyRoute where
  locationPath : Text
  upstreamURL : Text
  authBearer : Text
deriving DecidableEq

structure PluginRoute where
  pluginName : Text
  version : Text
  routes : List ProxyRoute
deriving DecidableEq

def trimSlash (path : Text) : Text := path.rdropWhile (· = '/')

def renderLocation (route : ProxyRoute) : Text :=
  "\nlocation ^~ ".toList ++ route.locationPath ++ " \x7b\n    proxy_pass ".toList ++ route.upstreamURL ++
    (";\n    proxy_http_version 1.1;\n" ++
     "    proxy_set_header Host              $host;\n" ++
     "    proxy_set_header X-Real-IP         $remote_addr;\n" ++
     "    proxy_set_header X-Forwarded-For   $proxy_add_x_forwarded_for;\n" ++
     "    proxy_set_header X-Forwarded-Proto $scheme;\n" ++
     "    proxy_set_header X-Forwarded-Prefix ").toList ++ trimSlash route.locationPath ++ ";".toList ++
    (if route.authBearer = [] then []
      else "\n    proxy_set_header Authorization \"Bearer ".toList ++ route.authBearer ++ "\";".toList) ++
    ("\n\n    proxy_set_header Upgrade    $http_upgrade;\n" ++
     "    proxy_set_header Connection $connection_upgrade;\n\n" ++
     "    proxy_buffering          off;\n" ++
     "    proxy_request_buffering  off;\n" ++
     "    proxy_read_timeout       1d;\n" ++
     "    proxy_send_timeout       1d;\n\x7d\n").toList

def renderProxyConfig (route : PluginRoute) : Text :=
  "# Generated by tierd; do not edit. Plugin: " ++ route.pluginName ++ " v" ++ route.version ++ "\n" ++
    route.routes.flatMap renderLocation

def baseConfBody : Text :=
  ("# Generated by tierd. Do not edit; regenerated on first plugin install.\n" ++
   "# Defines shared directives the per-plugin /etc/nginx/conf.d/plugins.d/*.conf\n" ++
   "# routes depend on. Currently just the WebSocket connection-upgrade map.\n\n" ++
   "map $http_upgrade $connection_upgrade \x7b\n    default upgrade;\n    ''      close;\n\x7d\n").toList

/-- Plugin names have no `/`, so that joining them to the directory does not clean anything away. -/
def confPathFor (pluginName : Text) : Text := confDir ++ '/' :: pluginName ++ ".conf"

structure Nginx where
  files : Text → Option Text
  loaded : Text → Option Text

/-- `late` reports an error although the new configuration is in effect. -/
inductive Reload where
  | accepted | rejected | late
deriving DecidableEq

def Nginx.reload (nginx : Nginx) : Reload → Nginx
  | .accepted | .late => { nginx with loaded := nginx.files }
  | .rejected => nginx

def Nginx.write (nginx : Nginx) (path : Text) (content : Option Text) : Nginx :=
  { nginx with files := Function.update nginx.files path content }

inductive ProxyError where
  | emptyPluginName
  | reloadRejected (pluginName : Text)
  | reloadAfterRemoval (pluginName : Text)
deriving DecidableEq

def ensureBaseConf (nginx : Nginx) : Nginx :=
  if (nginx.files baseConfPath).isSome then nginx else nginx.write baseConfPath (some baseConfBody)

/-- The second reload is the one after the roll-back; its error is dropped. -/
def apply (first second : Reload) (nginx : Nginx) (route : PluginRoute) : Except ProxyError Unit × Nginx :=
  if route.pluginName = [] then (.error .emptyPluginName, nginx)
  else if route.routes = [] then (.ok (), nginx)
  else
    let nginx := ensureBaseConf nginx
    let confPath := confPathFor route.pluginName
    let prior := nginx.files confPath
    let tried := (nginx.write confPath (some (renderProxyConfig route))).reload first
    if first = .accepted then (.ok (), tried)
    else (.error (.reloadRejected route.pluginName), (tried.write confPath prior).reload second)

def remove (first : Reload) (nginx : Nginx) (pluginName : Text) : Except ProxyError Unit × Nginx :=
  let confPath := confPathFor pluginName
  if nginx.files confPath = none then (.ok (), nginx)
  else
    let gone := (nginx.write confPath none).reload first
    if first = .accepted then (.ok (), gone) else (.error (.reloadAfterRemoval pluginName), gone)

inductive Call where
  | apply (route : PluginRoute)
  | remove (pluginName : Text)
deriving DecidableEq

def Call.plugin : Call → Text
  | .apply route => route.pluginName
  | .remove pluginName => pluginName

/-- The route set that a successful call leaves. -/
def Call.leaves : Call → Option PluginRoute
  | .apply route => if route.routes = [] then none else some route
  | .remove _ => none

structure Event where
  call : Call
  first : Reload
  second : Reload
deriving DecidableEq

def Event.perform (event : Event) (nginx : Nginx) : Except ProxyError Unit × Nginx :=
  match event.call with
  | .apply route => apply event.first event.second nginx route
  | .remove pluginName => remove event.first nginx pluginName

/-- What the caller knows of a plugin: the last route set that was applied, the last call if it
failed, and whether the last call was a retry that succeeded. -/
structure History where
  applied : Option PluginRoute
  failed : Option Call
  retried : Bool
deriving DecidableEq

def History.record (history : History) (call : Call) : Except ProxyError Unit → History
  | .ok () => ⟨call.leaves, none, history.failed = some call⟩
  | .error _ => ⟨history.applied, some call, false⟩

structure World where
  nginx : Nginx
  history : Text → History

def step (world : World) (event : Event) : World :=
  let (result, nginx) := event.perform world.nginx
  { nginx
    history := Function.update world.history event.call.plugin
      ((world.history event.call.plugin).record event.call result) }

def fresh (base : Option Text) (loaded : Text → Option Text) : World where
  nginx := ⟨Function.update (fun _ => none) baseConfPath base, loaded⟩
  history := fun _ => ⟨none, none, false⟩

structure AgreesOn (world : World) (name : Text) : Prop where
  file : world.nginx.files (confPathFor name) = (world.history name).applied.map renderProxyConfig
  reloaded : (world.history name).retried = true →
    world.nginx.loaded (confPathFor name) = world.nginx.files (confPathFor name)

def Agrees (world : World) : Prop := ∀ name, AgreesOn world name

/-- An empty route set is applied only while the plugin has no file, and the reload after a removal
succeeds. -/
def Harmless (world : World) (event : Event) : Prop :=
  match event.call with
  | .apply route =>
    route.pluginName ≠ [] → route.routes = [] → world.nginx.files (confPathFor route.pluginName) = none
  | .remove pluginName => world.nginx.files (confPathFor pluginName) ≠ none → event.first = .accepted

theorem confPathFor_injective : Function.Injective confPathFor := by
  intro first second same
  unfold confPathFor at same
  exact (List.cons_inj_right _).mp (List.append_cancel_left (List.append_cancel_right same))

theorem confPathFor_ne_base (name : Text) : confPathFor name ≠ baseConfPath := by
  intro same
  have differ : (confPathFor name)[18]? ≠ baseConfPath[18]? := by
    have own : (confPathFor name)[18]? = some 'p' := rfl
    rw [own]
    decide
  exact differ (congrArg (·[18]?) same)

variable {nginx : Nginx} {name : Text}

@[simp] theorem reload_files (outcome : Reload) : (nginx.reload outcome).files = nginx.files := by
  cases outcome <;> rfl

theorem reload_loaded (outcome : Reload) (path : Text) :
    (nginx.reload outcome).loaded path = nginx.loaded path ∨ (nginx.reload outcome).loaded path = nginx.files path := by
  cases outcome with
  | accepted | late => exact .inr rfl
  | rejected => exact .inl rfl

@[simp] theorem write_loaded (path : Text) (content : Option Text) :
    (nginx.write path content).loaded = nginx.loaded := rfl

@[simp] theorem write_files_same (path : Text) (content : Option Text) :
    (nginx.write path content).files path = content := by
  simp only [Nginx.write, Function.update_self]

theorem write_files_other {path other : Text} (apart : other ≠ path) (content : Option Text) :
    (nginx.write path content).files other = nginx.files other := by
  simp only [Nginx.write, Function.update_of_ne apart]

structure Follows (before after : Nginx) (path : Text) : Prop where
  file : after.files path = before.files path
  loaded : before.loaded path = before.files path → after.loaded path = before.files path

theorem Follows.refl (nginx : Nginx) (path : Text) : Follows nginx nginx path := ⟨rfl, id⟩

theorem Follows.trans {first second third : Nginx} {path : Text} (one : Follows first second path)
    (two : Follows second third path) : Follows first third path := by
  refine ⟨two.file.trans one.file, fun had => ?_⟩
  have between : second.loaded path = second.files path := (one.loaded had).trans one.file.symm
  exact (two.loaded between).trans one.file

theorem follows_write {path other : Text} (apart : other ≠ path) (content : Option Text) :
    Follows nginx (nginx.write path content) other :=
  ⟨write_files_other apart content, id⟩

theorem follows_reload (outcome : Reload) (path : Text) : Follows nginx (nginx.reload outcome) path := by
  refine ⟨congrFun (reload_files outcome) path, fun had => ?_⟩
  exact (reload_loaded outcome path).elim (·.trans had) id

theorem follows_ensureBaseConf (nginx : Nginx) (name : Text) :
    Follows nginx (ensureBaseConf nginx) (confPathFor name) := by
  unfold ensureBaseConf
  split
  case isTrue => exact .refl nginx _
  case isFalse => exact follows_write (confPathFor_ne_base name) _

theorem follows_perform {event : Event} (other : name ≠ event.call.plugin) :
    Follows nginx (event.perform nginx).2 (confPathFor name) := by
  have apart : confPathFor name ≠ confPathFor event.call.plugin := fun same => other (confPathFor_injective same)
  unfold Event.perform
  cases call : event.call with
  | apply route =>
    rw [call] at apart
    unfold apply
    dsimp only
    split
    case isTrue => exact .refl nginx _
    case isFalse =>
      split
      case isTrue => exact .refl nginx _
      case isFalse =>
        have written := (follows_ensureBaseConf nginx name).trans
          (follows_write apart (some (renderProxyConfig route)))
        have tried := written.trans (follows_reload event.first _)
        split
        case isTrue => exact tried
        case isFalse => exact (tried.trans (follows_write apart _)).trans (follows_reload event.second _)
  | remove pluginName =>
    rw [call] at apart
    have gone : Follows nginx ((nginx.write (confPathFor pluginName) none).reload event.first) (confPathFor name) :=
      (follows_write apart none).trans (follows_reload event.first _)
    unfold remove
    dsimp only
    split
    case isTrue => exact .refl nginx _
    case isFalse =>
      split
      case isTrue => exact gone
      case isFalse => exact gone

theorem apply_unnamed {route : PluginRoute} (unnamed : route.pluginName = []) (first second : Reload) :
    Event.perform ⟨.apply route, first, second⟩ nginx = (.error .emptyPluginName, nginx) :=
  if_pos unnamed

theorem apply_unrouted {route : PluginRoute} (named : route.pluginName ≠ []) (unrouted : route.routes = [])
    (first second : Reload) : Event.perform ⟨.apply route, first, second⟩ nginx = (.ok (), nginx) :=
  (if_neg named).trans (if_pos unrouted)

theorem apply_accepted {route : PluginRoute} (named : route.pluginName ≠ []) (routed : route.routes ≠ [])
    (second : Reload) :
    ∃ after, Event.perform ⟨.apply route, .accepted, second⟩ nginx = (.ok (), after) ∧ after.loaded = after.files ∧
      after.files (confPathFor route.pluginName) = some (renderProxyConfig route) := by
  dsimp only [Event.perform]
  unfold apply
  rw [if_neg named, if_neg routed, if_pos rfl]
  exact ⟨_, rfl, rfl, write_files_same _ _⟩

/-- The roll-back puts the file back. -/
theorem apply_refused {route : PluginRoute} (named : route.pluginName ≠ []) (routed : route.routes ≠ [])
    {first : Reload} (refused : first ≠ .accepted) (second : Reload) :
    ∃ after, Event.perform ⟨.apply route, first, second⟩ nginx = (.error (.reloadRejected route.pluginName), after) ∧
      after.files (confPathFor route.pluginName) = nginx.files (confPathFor route.pluginName) := by
  dsimp only [Event.perform]
  unfold apply
  rw [if_neg named, if_neg routed, if_neg refused]
  refine ⟨_, rfl, ?_⟩
  rw [reload_files, write_files_same]
  exact (follows_ensureBaseConf nginx route.pluginName).file

theorem remove_present (present : nginx.files (confPathFor name) ≠ none) (first second : Reload) :
    ∃ after, Event.perform ⟨.remove name, first, second⟩ nginx =
        (if first = .accepted then .ok () else .error (.reloadAfterRemoval name), after) ∧
      after.files (confPathFor name) = none ∧ (first = .accepted → after.loaded = after.files) := by
  refine ⟨(nginx.write (confPathFor name) none).reload first, ?_, ?_, ?_⟩
  · dsimp only [Event.perform]
    unfold remove
    rw [if_neg present]
    split <;> rfl
  · rw [reload_files, write_files_same]
  · rintro rfl
    rfl

theorem remove_absent (absent : nginx.files (confPathFor name) = none) (first second : Reload) :
    Event.perform ⟨.remove name, first, second⟩ nginx = (.ok (), nginx) :=
  if_pos absent

def Call.Fails : Call → Prop
  | .apply route => route.pluginName = [] ∨ route.routes ≠ []
  | .remove _ => False

def OnlyAppliesFail (world : World) : Prop := ∀ name call, (world.history name).failed = some call → call.Fails

variable {world : World} {event : Event}

theorem step_history_other (other : name ≠ event.call.plugin) :
    (step world event).history name = world.history name := by
  simp only [step, Function.update_of_ne other]

theorem step_history_own {result : Except ProxyError Unit} {after : Nginx}
    (performed : event.perform world.nginx = (result, after)) :
    (step world event).history event.call.plugin = (world.history event.call.plugin).record event.call result := by
  simp only [step, performed, Function.update_self]

theorem step_nginx : (step world event).nginx = (event.perform world.nginx).2 := rfl

theorem AgreesOn.step_other (agrees : AgreesOn world name) (other : name ≠ event.call.plugin) :
    AgreesOn (step world event) name := by
  have follows : Follows world.nginx (step world event).nginx (confPathFor name) := follows_perform other
  have kept : (step world event).history name = world.history name := step_history_other other
  refine ⟨?_, fun retried => ?_⟩
  · rw [follows.file, kept]
    exact agrees.file
  · rw [kept] at retried
    exact (follows.loaded (agrees.reloaded retried)).trans follows.file.symm

theorem agreesOn_own_iff {result : Except ProxyError Unit} {after : Nginx}
    (performed : event.perform world.nginx = (result, after)) :
    AgreesOn (step world event) event.call.plugin ↔
      after.files (confPathFor event.call.plugin) =
          ((world.history event.call.plugin).record event.call result).applied.map renderProxyConfig ∧
        (((world.history event.call.plugin).record event.call result).retried = true →
          after.loaded (confPathFor event.call.plugin) = after.files (confPathFor event.call.plugin)) := by
  have own := step_history_own performed
  have nginx : (step world event).nginx = after := by rw [step_nginx, performed]
  constructor
  · rintro ⟨file, reloaded⟩
    rw [own, nginx] at file
    rw [own, nginx] at reloaded
    exact ⟨file, reloaded⟩
  · rintro ⟨file, reloaded⟩
    refine ⟨?_, ?_⟩
    · rw [own, nginx]
      exact file
    · rw [own, nginx]
      exact reloaded

theorem step_own_iff (agrees : AgreesOn world event.call.plugin) (failures : OnlyAppliesFail world) :
    AgreesOn (step world event) event.call.plugin ↔ Harmless world event := by
  obtain ⟨call, first, second⟩ := event
  cases call with
  | apply route =>
    by_cases named : route.pluginName = []
    · have performed : _ = (_, world.nginx) := apply_unnamed named first second
      rw [agreesOn_own_iff performed]
      exact iff_of_true ⟨agrees.file, nofun⟩ fun other => absurd named other
    · by_cases routed : route.routes = []
      · have performed : _ = (_, world.nginx) := apply_unrouted named routed first second
        have fresh : (world.history route.pluginName).failed ≠ some (.apply route) := fun failed =>
          (failures _ _ failed).elim named fun some => some routed
        have leaves : Call.leaves (.apply route) = none := if_pos routed
        rw [agreesOn_own_iff performed]
        simp only [History.record, leaves, Option.map_none, decide_eq_true_iff]
        constructor
        · exact fun after _ _ => after.1
        · exact fun harmless => ⟨harmless named routed, fun failed => absurd failed fresh⟩
      · refine iff_of_true ?_ fun _ none => absurd none routed
        by_cases accepted : first = .accepted
        · subst accepted
          obtain ⟨after, performed, reloaded, file⟩ := apply_accepted named routed second
          have leaves : Call.leaves (.apply route) = some route := if_neg routed
          refine (agreesOn_own_iff performed).mpr ⟨?_, fun _ => congrFun reloaded _⟩
          simp only [History.record, leaves]
          exact file
        · obtain ⟨after, performed, file⟩ := apply_refused named routed accepted second
          exact (agreesOn_own_iff performed).mpr ⟨file.trans agrees.file, nofun⟩
  | remove pluginName =>
    by_cases absent : world.nginx.files (confPathFor pluginName) = none
    · refine iff_of_true ?_ fun present => absurd absent present
      have performed := remove_absent absent first second
      have fresh : (world.history pluginName).failed ≠ some (.remove pluginName) := fun failed => failures _ _ failed
      refine (agreesOn_own_iff performed).mpr ⟨absent, fun retried => ?_⟩
      exact absurd (of_decide_eq_true retried) fresh
    · obtain ⟨after, performed, file, reloaded⟩ := remove_present absent first second
      by_cases accepted : first = .accepted
      · refine iff_of_true ?_ fun _ => accepted
        rw [if_pos accepted] at performed
        exact (agreesOn_own_iff performed).mpr ⟨file, fun _ => congrFun (reloaded accepted) _⟩
      · refine iff_of_false (fun after => ?_) fun harmless => accepted (harmless absent)
        rw [if_neg accepted] at performed
        have applied := ((agreesOn_own_iff performed).mp after).1
        exact absent (agrees.file.trans (applied.symm.trans file))

theorem fails_of_error {error : ProxyError} {after : Nginx} (harmless : Harmless world event)
    (performed : event.perform world.nginx = (.error error, after)) : event.call.Fails := by
  obtain ⟨call, first, second⟩ := event
  cases call with
  | apply route =>
    by_contra settled
    obtain ⟨named, unrouted⟩ := not_or.mp settled
    rw [apply_unrouted named (not_not.mp unrouted)] at performed
    cases performed
  | remove pluginName =>
    by_cases absent : world.nginx.files (confPathFor pluginName) = none
    · rw [remove_absent absent] at performed
      cases performed
    · obtain ⟨gone, removed, _⟩ := remove_present absent first second
      rw [removed, if_pos (harmless absent)] at performed
      cases performed

theorem step_onlyAppliesFail (failures : OnlyAppliesFail world) (harmless : Harmless world event) :
    OnlyAppliesFail (step world event) := by
  intro name call failed
  by_cases own : name = event.call.plugin
  · subst own
    cases result : event.perform world.nginx with
    | mk outcome after =>
      rw [step_history_own result] at failed
      cases outcome with
      | ok => cases failed
      | error error =>
        cases failed
        exact fails_of_error harmless result
  · rw [step_history_other own] at failed
    exact failures name call failed

theorem step_agrees_iff (agrees : Agrees world) (failures : OnlyAppliesFail world) :
    Agrees (step world event) ↔ Harmless world event := by
  rw [← step_own_iff (agrees event.call.plugin) failures]
  refine ⟨fun after => after _, fun own name => ?_⟩
  by_cases same : name = event.call.plugin
  · exact same ▸ own
  · exact (agrees name).step_other same

theorem fresh_agrees (base : Option Text) (loaded : Text → Option Text) : Agrees (fresh base loaded) := by
  intro name
  refine ⟨?_, nofun⟩
  simp only [fresh, Function.update_of_ne (confPathFor_ne_base name), Option.map_none]

/-- From a directory without routes, the files and nginx agree with what was applied after every
call of a sequence exactly if no removal is caught by a failing reload and no empty route set meets
a file. -/
theorem proxy_agrees_iff (base : Option Text) (loaded : Text → Option Text) (events : List Event) :
    (∀ before, before <+: events → Agrees (run step (fresh base loaded) before)) ↔
      Guarded step Harmless (fresh base loaded) events :=
  guarded_iff_holds_throughout (fun _ _ failures _ harmless => step_onlyAppliesFail failures harmless)
    (fun _ _ failures agrees => step_agrees_iff agrees failures) events (fun _ _ failed => nomatch failed)
    (fresh_agrees base loaded)

def appRoute : PluginRoute :=
  ⟨"app", "1", [⟨"/plugins/app/", "http://10.100.0.2:80/", []⟩]⟩

/-- The reload after a removal fails; the removal is called again and succeeds, as there is no file
any more, and nginx still serves the routes. -/
theorem removed_routes_served :
    let world := run step (fresh none fun _ => none)
      [⟨.apply appRoute, .accepted, .accepted⟩, ⟨.remove "app", .rejected, .accepted⟩,
        ⟨.remove "app", .accepted, .accepted⟩]
    (world.history "app").retried = true ∧ world.nginx.files (confPathFor "app") = none ∧
      world.nginx.loaded (confPathFor "app") = some (renderProxyConfig appRoute) := by
  refine ⟨by decide, by decide, ?_⟩
  rfl

end Tierd.Plugin.Proxy
