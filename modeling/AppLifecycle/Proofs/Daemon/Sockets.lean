import AppLifecycle.Proofs.Config.Catalog
import AppLifecycle.Proofs.Path
import AppLifecycle.Rehearsal.Performance

/-!
# The sockets of the daemon

Each of the two sockets is given by an option, in the configuration or by default, and the one for
compositors may be derived from the one for shells. Whoever connects gets the role of the socket
that was bound last at the place: where the sockets meet, nobody is a shell. The paths are not
compared, so the sockets meet where both are given and lead to one place, and where the one for
shells is given and has the name that the other one is derived with.
-/

namespace AppLifecycle

/-! ## Where the sockets are -/

/-- The name of a socket for compositors that is not given. -/
def compositorName : List Char := "compositor.sock".toList

/-- The two sockets lead to one place: both are given so, or only the one for shells is, and has the
name that is reserved for the other one. -/
def Options.SocketsMeet (env : Environment) (o : Options) (raw : RawDaemon) : Prop :=
  match o.compositorSocket, o.socket, raw.compositorSocketPath with
  | some path, _, _ => Disk.place path.text = Disk.place (o.shellSocket (raw.paths env)).text
  | none, some socket, _ => Path.fileName? socket.text.toList = some compositorName
  | none, none, some path => Disk.place path.text = Disk.place (raw.paths env).socket.text
  | none, none, none =>
    ∃ socket, raw.socketPath = some socket ∧
      Path.fileName? socket.text.toList = some compositorName

/-- A derived socket is elsewhere unless it has been derived from its own path. -/
lemma place_compositorSocketBeside (socket : Path) :
    Disk.place (compositorSocketBeside socket).text = Disk.place socket.text ↔
      Path.fileName? socket.text.toList = some compositorName :=
  Path.resolve_withFileName (by decide) socket

/-- The default socket for shells has a name of its own. -/
lemma fileName?_socketPath (env : Environment) :
    Path.fileName? env.socketPath.text.toList = some "tetherd.sock".toList := by
  rw [Environment.socketPath]
  split
  · exact Path.fileName?_join (by decide) _
  · exact Path.fileName?_join (by decide) _

/-- The sockets are at one place exactly if they meet by the options and the configuration. -/
lemma place_compositorSocketPath (env : Environment) (o : Options) (raw : RawDaemon) :
    Disk.place (o.compositorSocketPath (raw.paths env)).text =
      Disk.place (o.shellSocket (raw.paths env)).text ↔ o.SocketsMeet env raw := by
  rw [Options.compositorSocketPath, Options.SocketsMeet]
  cases given : o.compositorSocket with
  | some path => rfl
  | none =>
    rw [Options.shellSocket]
    cases moved : o.socket with
    | some socket => exact place_compositorSocketBeside socket
    | none =>
      dsimp only
      rw [Option.getD_none, RawDaemon.paths]
      dsimp only
      cases configured : raw.compositorSocketPath with
      | some path => rfl
      | none =>
        dsimp only
        rw [Option.getD_none, place_compositorSocketBeside]
        cases own : raw.socketPath with
        | some socket => simp
        | none =>
          -- the default name is not the one that is derived
          rw [Option.getD_none, fileName?_socketPath]
          constructor
          · intro same
            exact absurd (Option.some.inj same) (by decide)
          · rintro ⟨_, none, -⟩
            cases none

/-! ## Roles -/

namespace Service

/-- The role of those who connect at a path: that of the socket which was bound there last. -/
def roleAt (s : Service) (path : String) : Option ClientRole :=
  (s.endpoints.reverse.find? fun (socket, _) => Disk.place socket.text = Disk.place path).map (·.2)

end Service

/-- This is the role that a client of a rehearsed daemon gets. -/
lemma Performance.connect_eq (p : Performance) (label path : String) :
    p.connect label path =
      match p.service.roleAt path with
      | none => p
      | some role =>
        let id := Script.clientId p.ids.length
        let p := p.deliver (Server.connect ⟨id, role, none, none⟩)
        { p with clients := p.clients ++ [⟨label, id, .nothing⟩], ids := id :: p.ids } := by
  rw [connect, Service.roleAt]
  cases p.service.endpoints.reverse.find? fun (socket, _) =>
    Disk.place socket.text = Disk.place path <;> rfl

namespace Service

variable {outside : List Nat} {env : Environment} {args : List String} {disk : Disk} {s : Service}
variable {shells compositors : Path}

lemma roleAt_of_endpoints (bound : s.endpoints = [(shells, .shell), (compositors, .compositor)])
    (path : String) :
    s.roleAt path =
      if Disk.place compositors.text = Disk.place path then some .compositor
      else if Disk.place shells.text = Disk.place path then some .shell
      else none := by
  rw [roleAt, bound]
  by_cases last : Disk.place compositors.text = Disk.place path
  · simp [last]
  · by_cases first : Disk.place shells.text = Disk.place path
    · simp [last, first]
    · simp [last, first]

/-- Shells are those who connect to their socket, unless the other one has taken its place. -/
lemma roleAt_eq_shell_iff (bound : s.endpoints = [(shells, .shell), (compositors, .compositor)])
    {path : String} : s.roleAt path = some .shell ↔
      Disk.place shells.text = Disk.place path ∧
        Disk.place compositors.text ≠ Disk.place shells.text := by
  rw [roleAt_of_endpoints bound]
  split_ifs with last first
  · simp [last, eq_comm]
  · exact iff_of_true rfl ⟨first, fun same => last (same.trans first)⟩
  · simp [first]

/-- A computation that ends well has done so at its first step. -/
lemma bind_eq_ok {ε α β : Type} {e : Except ε α} {f : α → Except ε β} {b : β}
    (done : e >>= f = .ok b) : ∃ a, e = .ok a ∧ f a = .ok b := by
  cases e with
  | error _ => cases done
  | ok a => exact ⟨a, rfl, done⟩

lemma mapError_eq_ok {ε ε' α : Type} {e : Except ε α} {f : ε → ε'} {a : α}
    (done : e.mapError f = .ok a) : e = .ok a := by
  cases e with
  | error _ => cases done
  | ok a' => exact congrArg _ (Except.ok.inj done)

/-- A daemon that starts has read its options and its configuration, and bound two sockets, first
the one for shells. -/
lemma start_eq_ok (started : start outside env args disk = .ok s) :
    ∃ options text policy first, Options.ofArgs env args = .ok options ∧
      disk.read (options.configPath env).text = .ok text ∧
      Policy.ofToml env text = .ok policy ∧
      disk.bind (options.shellSocket policy.daemon).text = .ok first ∧
      first.bind (options.compositorSocketPath policy.daemon).text = .ok s.disk ∧
      s.endpoints = [(options.shellSocket policy.daemon, .shell),
        (options.compositorSocketPath policy.daemon, .compositor)] := by
  obtain ⟨options, usage, started⟩ := bind_eq_ok started
  obtain ⟨text, read, started⟩ := bind_eq_ok started
  obtain ⟨policy, accepted, started⟩ := bind_eq_ok started
  obtain ⟨first, bound, started⟩ := bind_eq_ok started
  obtain ⟨second, bound', started⟩ := bind_eq_ok started
  obtain ⟨⟨⟩⟩ := started
  exact ⟨options, text, policy, first, mapError_eq_ok usage, mapError_eq_ok read,
    mapError_eq_ok accepted, mapError_eq_ok bound, mapError_eq_ok bound', rfl⟩

/-- The sockets that a daemon binds are at two places exactly if they do not meet by its options and
its configuration. Those who connect to the socket for compositors are compositors in any case, and
there are shells only if the sockets do not meet. -/
theorem start_sockets (started : start outside env args disk = .ok s) :
    ∃ options text raw, Options.ofArgs env args = .ok options ∧
      disk.read (options.configPath env).text = .ok text ∧
      RawConfig.ofToml? text = some raw ∧
      let shells := options.shellSocket (raw.daemon.paths env)
      let compositors := options.compositorSocketPath (raw.daemon.paths env)
      s.endpoints = [(shells, .shell), (compositors, .compositor)] ∧
      (Disk.place shells.text ≠ Disk.place compositors.text ↔
        ¬ options.SocketsMeet env raw.daemon) ∧
      s.roleAt compositors.text = some .compositor ∧
      (s.roleAt shells.text = some .shell ↔ ¬ options.SocketsMeet env raw.daemon) ∧
      ((∃ path, s.roleAt path = some .shell) ↔ ¬ options.SocketsMeet env raw.daemon) := by
  obtain ⟨options, text, policy, -, usage, read, accepted, -, -, bound⟩ := start_eq_ok started
  obtain ⟨raw, parsed, -, -, rfl⟩ := Policy.ofToml_eq_ok.mp accepted
  have meet := place_compositorSocketPath env options raw.daemon
  refine ⟨options, text, raw, usage, read, parsed, bound, ?_, ?_, ?_, ?_⟩
  · rw [← meet, ne_eq, eq_comm]
  · rw [roleAt_of_endpoints bound]
    exact if_pos rfl
  · rw [← meet, roleAt_eq_shell_iff bound]
    exact and_iff_right rfl
  · rw [← meet]
    simp only [roleAt_eq_shell_iff bound]
    exact ⟨fun ⟨_, _, apart⟩ => apart, fun apart => ⟨_, rfl, apart⟩⟩

/-- A disk with a configuration that says nothing about sockets. -/
def plainDisk : Disk := .ofFiles [("c.toml", "config_version = 1")]

theorem sockets_apart : ∃ s,
    start [] [] ["-c", "c.toml", "-s", "run/tetherd.sock"] plainDisk = .ok s ∧
    s.endpoints = [(⟨"run/tetherd.sock"⟩, .shell), (⟨"run/compositor.sock"⟩, .compositor)] ∧
    s.roleAt "run/tetherd.sock" = some .shell := by
  obtain ⟨s, started, bound⟩ := Policy.exists_ok_of_toOption
    (e := start [] [] ["-c", "c.toml", "-s", "run/tetherd.sock"] plainDisk) (f := endpoints)
    (b := [(⟨"run/tetherd.sock"⟩, .shell), (⟨"run/compositor.sock"⟩, .compositor)])
    (by decide +kernel)
  obtain ⟨options, text, raw, -, -, -, known, apart, -, shell, -⟩ := start_sockets started
  have same := bound.symm.trans known
  simp only [List.cons.injEq, Prod.mk.injEq, and_true] at same
  obtain ⟨shells, compositors⟩ := same
  rw [← shells, ← compositors] at apart
  rw [← shells] at shell
  exact ⟨s, started, bound, shell.mpr (apart.mp (by decide))⟩

/-- A socket for shells that is called like the one for compositors is bound and then taken by it:
the daemon starts, and there are no shells. -/
theorem sockets_meet : ∃ s,
    start [] [] ["-c", "c.toml", "-s", "run/compositor.sock"] plainDisk = .ok s ∧
    s.endpoints = [(⟨"run/compositor.sock"⟩, .shell), (⟨"run/compositor.sock"⟩, .compositor)] ∧
    ∀ path, s.roleAt path ≠ some .shell := by
  obtain ⟨s, started, bound⟩ := Policy.exists_ok_of_toOption
    (e := start [] [] ["-c", "c.toml", "-s", "run/compositor.sock"] plainDisk)
    (f := endpoints)
    (b := [(⟨"run/compositor.sock"⟩, .shell), (⟨"run/compositor.sock"⟩, .compositor)])
    (by decide +kernel)
  refine ⟨s, started, bound, fun path shell => ?_⟩
  exact ((roleAt_eq_shell_iff bound).mp shell).2 rfl

end Service

end AppLifecycle
