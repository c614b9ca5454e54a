import Gatehouse.Config.Environment
import Gatehouse.Server.Basic

namespace Gatehouse

inductive Signal where
  | interrupt
  | terminate
deriving DecidableEq

def Signal.message : Signal → String
  | .interrupt => "received Ctrl+C"
  | .terminate => "received SIGTERM"

inductive HostError where
  | arguments (error : ArgumentError)
  | config (error : ConfigError)
  | logging (error : InstallError)
  | start (error : StartError)
  | serve (error : ServeError)
deriving DecidableEq

namespace HostError

/-- The exit code: faulty arguments have one of their own, and showing help is no fault. -/
def exitCode : HostError → UInt8
  | .arguments e => if e.isAnswer then 0 else 2
  | _ => 1

def report (message : String) (source? : Option String) : String :=
  "Error: " ++ message ++ "\n" ++
    (match source? with
    | some source => "\nCaused by:\n    " ++ source ++ "\n"
    | none => "")

def stdout : HostError → String
  | .arguments e => if e.isAnswer then e.printed ++ "\n" else ""
  | _ => ""

def stderr : HostError → String
  | .arguments e => if e.isAnswer then "" else e.printed ++ "\n"
  | .config e => report e.message e.source?
  | .logging e => report e.message e.source?
  | .start e => report e.message e.source?
  | .serve e => report e.message none

end HostError

structure Host where
  logger : Logger
  server : Server
deriving DecidableEq

namespace Host

def target : String := "courier_server"

def info (message : String) (fields : List (String × FieldValue)) : Event :=
  { level := .info, target := target, message := message, fields := fields }

def filterVariable : String := "RUST_LOG"

def environment (env : Environment) (file : Option String) : Environment :=
  match file with
  | some text => EnvFile.load env text
  | none => env

def prepare (env : Environment) (arguments : List String) :
    Except HostError (ServerConfig × Logger) := do
  let settings ← (Settings.read env arguments).mapError .arguments
  let config ← (ServerConfig.ofSettings settings).mapError .config
  let logger ← (Logger.install none config.logging (env.get? filterVariable)).mapError .logging
  return (config, logger)

/-- Opens the listeners and begins to serve; gives the events up to then. -/
def launch (config : ServerConfig) (system : SocketAddress → Opening) :
    Except HostError Server × List Event :=
  let starting := info "starting courier-server" [("config", .text config.text)]
  match Server.start { config } (system config.httpAddr) (system config.grpcAddr) with
  | (.error e, _) => (.error (.start e), [starting])
  | (.ok (listeners, bound), s) =>
    let listening := info "courier-server listening" (Server.addressFields listeners)
    match s.serve with
    | (.error e, _) => (.error (.serve e), starting :: bound ++ [listening])
    | (.ok serving, s) => (.ok s, starting :: bound ++ [listening] ++ serving)

/-- Runs until the listeners are served; gives the log lines up to then. -/
def boot (env : Environment) (file : Option String) (arguments : List String)
    (system : SocketAddress → Opening) : Except HostError Host × List LogLine :=
  let env := environment env file
  match prepare env arguments with
  | .error e => (.error e, [])
  | .ok (config, logger) =>
    let (result, events) := launch config system
    (result.map fun server => ⟨logger, server⟩, logger.lines events)

def halt (h : Host) (signal : Signal) : List LogLine :=
  h.logger.lines (info signal.message [] :: h.server.shutDown.1)

end Host

end Gatehouse
