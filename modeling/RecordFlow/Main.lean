import RecordFlow.Bulk.Client
import RecordFlow.Runner.CommandLine
import RecordFlow.Shipped
import Std.Async.DNS
import Std.Async.TCP

/-!
# The program

The outer layer: files, standard input and output, pauses, and connections to bulk
backends.  The plugin libraries are the shipped ones, found by the names of their files.
-/

namespace RecordFlow.Program

open Std.Async Std.Net

def addressesOf : Url.Host → Async (Array IPAddr)
  | .ipv4 address =>
    let octet (n : Nat) : UInt8 := UInt8.ofNat (address.toNat / Nat.pow 256 n)
    pure #[.v4 ⟨#v[octet 3, octet 2, octet 1, octet 0]⟩]
  | .ipv6 pieces =>
    let piece (n : Nat) : UInt16 := UInt16.ofNat (pieces.getD n 0)
    pure #[.v6 ⟨#v[piece 0, piece 1, piece 2, piece 3, piece 4, piece 5, piece 6, piece 7]⟩]
  | .domain name => DNS.getAddrInfo name ""

def socketAddress (port : UInt16) : IPAddr → SocketAddress
  | .v4 address => .v4 ⟨address, port⟩
  | .v6 address => .v6 ⟨address, port⟩

/-- All bytes until the connection is closed. -/
partial def receiveAll (client : TCP.Socket.Client) (received : ByteArray) : Async ByteArray := do
  match ← client.recv? 65536 with
  | some bytes => receiveAll client (received ++ bytes)
  | none => pure received

/-- Send a request and wait for all that comes back. -/
def exchange (url : Url) (request : Bytes) : Async Bytes := do
  let some host := url.host | throw (IO.userError "no host")
  let some default := (Url.specialSchemes.lookup url.scheme).join
    | throw (IO.userError s!"scheme {url.scheme} is not supported")
  if url.scheme != "http" then throw (IO.userError s!"scheme {url.scheme} is not supported")
  let some address := (← addressesOf host)[0]? | throw (IO.userError "unknown host")
  let client ← TCP.Socket.Client.mk
  client.connect (socketAddress (UInt16.ofNat (url.port.getD default)) address)
  client.send (ByteArray.mk request.toArray)
  pure (← receiveAll client .empty).toList

/-- The transport to a bulk endpoint. -/
def connect (config : Bulk.Config) (url : Url) : Bulk.Transport IO where
  endpoint := url.render
  submit payload := do
    let request := (config.httpRequest url payload).render
    try pure (Bulk.submissionOf (.ok (← (exchange url request).block)))
    catch e => pure (Bulk.submissionOf (.error (toString e)))

def fileContent (path : String) : IO (Except Runner.FileFault Bytes) := do
  try pure (.ok (← IO.FS.readBinFile path).toList)
  catch
    | .noFileOrDirectory .. => pure (.error .notFound)
    | .permissionDenied .. => pure (.error .accessDenied)
    | .inappropriateType _ code _ =>
      pure (.error (if code = 20 then .notDirectory else .isDirectory))
    | .invalidArgument _ 36 _ => pure (.error .nameTooLong)
    | e => pure (.error (.other (toString e)))

/-- Everything on standard input. -/
partial def readAll (stream : IO.FS.Stream) (content : ByteArray) : IO ByteArray := do
  let bytes ← stream.read 65536
  if bytes.isEmpty then pure content else readAll stream (content ++ bytes)

def host : Runner.Host IO (Shipped IO) where
  processor := Shipped.processor IO
  library path := (ShippedKind.ofPath? path).map (Shipped.library connect)
  fileContent
  standardInput := do pure (← readAll (← IO.getStdin) .empty).toList
  pause milliseconds := IO.sleep (UInt32.ofNat milliseconds)

end RecordFlow.Program

/-- Run the program, and end with its exit code. -/
def main (arguments : List String) : IO UInt32 := do
  let environment ← IO.getEnv RecordFlow.Runner.configVariable
  let outcome ← RecordFlow.Runner.program RecordFlow.Program.host environment arguments
  IO.print outcome.output
  if let some complaint := outcome.complaint then IO.eprintln complaint
  pure outcome.exitCode
