import StreamServer.Http.Filesystem

/-! # The viewer's static file server

`HttpServer::handle_client` reads one request, answers `405` to anything but `GET`, cuts
the URI out of the request line, strips its query string and asks `resolve_path` for the
file (`StreamServer.HttpServer.handleClient`). The part before `resolve_path` never throws
(`StreamServer.HttpServer.parseRequest_isOk`). `resolve_path` calls `path.substr(1)`
before its `try` block, so it throws exactly on the empty URI
(`StreamServer.HttpServer.resolvePath_eq_error_iff`), and that exception leaves
`handle_client` and the detached thread that runs it
(`StreamServer.HttpServer.handleClient_eq_error_iff`).

Inside the `try` block the canonical file path is compared with the canonical web root
as strings, without a separator after the root.
-/

namespace StreamServer

namespace HttpServer

open FileSystem

/-- What `handle_client` writes on the socket before the connection is closed. -/
inductive Reply
  /-- Nothing: `recv` failed, or the request has no complete first line. -/
  | dropped
  /-- `send_response`: status, status text, content type and body. -/
  | response (status : Nat) (statusText contentType body : List Char)
  /-- The `200 OK` of `send_file`, with the MIME type and the file's bytes. -/
  | file (mime body : List Char)
deriving DecidableEq, Repr

/-- `mime_types_`. -/
def mimeTypes : List (List Char × List Char) :=
  [(".html".toList, "text/html".toList), (".css".toList, "text/css".toList),
    (".js".toList, "application/javascript".toList), (".json".toList, "application/json".toList),
    (".png".toList, "image/png".toList), (".jpg".toList, "image/jpeg".toList),
    (".jpeg".toList, "image/jpeg".toList), (".gif".toList, "image/gif".toList),
    (".svg".toList, "image/svg+xml".toList), (".ico".toList, "image/x-icon".toList),
    (".woff".toList, "font/woff".toList), (".woff2".toList, "font/woff2".toList),
    (".ttf".toList, "font/ttf".toList)]

/-- `path::extension()`: the last component from its last dot, unless that dot starts the
name or the name is `.` or `..`. -/
def extension (path : List Char) : List Char :=
  let name := ((path.splitOn '/').getLast?).getD []
  if name = ['.'] ∨ name = ['.', '.'] then []
  else
    match name.reverse.findIdx? (· == '.') with
    | some back => if back + 1 = name.length then [] else name.drop (name.length - 1 - back)
    | none => []

/-- `get_mime_type`: the lower-cased extension looked up in `mime_types_`. -/
def getMimeType (path : List Char) : List Char :=
  ((mimeTypes.lookup ((extension path).map Char.toLower))).getD "application/octet-stream".toList

/-- `send_file`. -/
def sendFile (fs : FileSystem) (path : List Char) : Reply :=
  match fs.readFile path with
  | some body => .file (getMimeType path) body
  | none =>
      .response 500 "Internal Server Error".toList "text/plain".toList "Cannot read file".toList

/-- The `try` block of `resolve_path`: canonicalize, compare with the canonical root as
strings, and keep only regular files. -/
def resolveGuarded (fs : FileSystem) (webRoot full : List Char) :
    Except CppException (List Char) := do
  let canonical ← fs.canonical full
  let rootStr := pathString (← fs.canonical webRoot)
  if (← substr (pathString canonical) 0 rootStr.length) ≠ rootStr then return []
  if fs.isRegularFile canonical then return pathString canonical
  return []

/-- `resolve_path`; every exception of the `try` block is caught and answers the empty
string, but `path.substr(1)` comes before it. -/
def resolvePath (fs : FileSystem) (webRoot uri : List Char) : Except CppException (List Char) := do
  let path := if uri = ['/'] then "/index.html".toList else uri
  let full := appendPath webRoot (← substr path 1 npos)
  return catchAll (resolveGuarded fs webRoot full) []

/-- The URI of a `GET` request line: from the byte after the first space to the next
space, without its query string. -/
def requestUri (firstLine : List Char) : Except CppException (List Char) := do
  let pathStart := sizeT (find firstLine [' '] 0 + 1)
  let pathEnd := find firstLine [' '] pathStart
  let uri ← substr firstLine pathStart (sizeT (pathEnd + 2 ^ 64 - pathStart))
  let query := find uri ['?'] 0
  if query ≠ npos then substr uri 0 query else return uri

/-- `handle_client` up to its call of `resolve_path`: the reply it sends before that, or
the URI it resolves. -/
def parseRequest (received : List Char) : Except CppException (Reply ⊕ List Char) := do
  if received = [] then return .inl .dropped
  let request := received.takeWhile (· ≠ Char.ofNat 0)
  let firstLineEnd := find request "\r\n".toList 0
  if firstLineEnd = npos then return .inl .dropped
  let firstLine ← substr request 0 firstLineEnd
  if (← substr firstLine 0 4) ≠ "GET ".toList then
    return .inl (.response 405 "Method Not Allowed".toList "text/plain".toList
      "Only GET supported".toList)
  return .inr (← requestUri firstLine)

/-- `handle_client` after the URI is known: resolve it, answer `404` or send the file. -/
def serveUri (fs : FileSystem) (webRoot uri : List Char) : Except CppException Reply := do
  let filePath ← resolvePath fs webRoot uri
  if filePath = [] then
    return .response 404 "Not Found".toList "text/html".toList
      "<html><body><h1>404 Not Found</h1></body></html>".toList
  return sendFile fs filePath

/-- `handle_client` on the bytes `recv` returned (empty when it returned `0` or less). -/
def handleClient (fs : FileSystem) (webRoot received : List Char) : Except CppException Reply := do
  match ← parseRequest received with
  | .inl reply => return reply
  | .inr uri => serveUri fs webRoot uri

/-- In a request line that starts with `GET `, the first space is the fourth byte. -/
theorem find_space_of_get {line : List Char} (get : line.take 4 = "GET ".toList) :
    find line [' '] 0 = 3 := by
  obtain ⟨rest, rfl⟩ : ∃ rest, line = "GET ".toList ++ rest :=
    ⟨line.drop 4, by rw [← get, List.take_append_drop]⟩
  simp [find, searchFrom, List.isPrefixOf]

/-- Cutting the URI out of a `GET` line raises nothing: it starts at the fifth byte. -/
theorem requestUri_isOk {firstLine : List Char} (get : firstLine.take 4 = "GET ".toList) :
    ∃ uri, requestUri firstLine = .ok uri := by
  have long : 4 ≤ firstLine.length := by
    have := congrArg List.length get
    rw [List.length_take, show "GET ".toList.length = 4 from rfl] at this
    omega
  simp only [requestUri, find_space_of_get get]
  rw [substr_of_le _ (by unfold sizeT; omega), except_ok_bind]
  split
  · exact ⟨_, substr_zero _ _⟩
  · exact ⟨_, rfl⟩

/-- The request-line parsing of `handle_client` raises nothing: every `substr` it makes
starts inside its string. -/
theorem parseRequest_isOk (received : List Char) : ∃ target, parseRequest received = .ok target := by
  unfold parseRequest
  by_cases empty : received = []
  · simp [empty]
  simp only [empty, ↓reduceIte, substr_zero, except_pure_eq_ok, except_ok_bind]
  split
  · exact ⟨_, rfl⟩
  split
  · exact ⟨_, rfl⟩
  · rename_i get
    obtain ⟨uri, found⟩ := requestUri_isOk (not_not.mp get)
    exact ⟨_, by rw [found]; rfl⟩

/-- `resolve_path` throws exactly on the empty URI, with `std::out_of_range` from
`path.substr(1)`. -/
theorem resolvePath_eq_error_iff {fs : FileSystem} {webRoot uri : List Char} {e : CppException} :
    resolvePath fs webRoot uri = .error e ↔ uri = [] ∧ e = .outOfRange 1 0 := by
  simp only [resolvePath, except_pure_eq_ok, except_bind_ok_eq_error_iff, substr_one_eq_error_iff]
  split <;> simp_all

/-- **Exceptions that leave `handle_client`.** The only exception that escapes
`handle_client` is the `std::out_of_range` of `resolve_path` on a `GET` request whose URI
is empty once the query string is stripped. -/
theorem handleClient_eq_error_iff {fs : FileSystem} {webRoot received : List Char}
    {e : CppException} :
    handleClient fs webRoot received = .error e ↔
      parseRequest received = .ok (.inr []) ∧ e = .outOfRange 1 0 := by
  obtain ⟨target, parsed⟩ := parseRequest_isOk received
  have served : ∀ uri, serveUri fs webRoot uri = .error e ↔ uri = [] ∧ e = .outOfRange 1 0 := by
    intro uri
    rw [← resolvePath_eq_error_iff]
    unfold serveUri
    cases resolvePath fs webRoot uri with
    | error thrown => simp
    | ok filePath =>
        simp only [except_ok_bind, except_pure_eq_ok]
        split <;> simp
  simp only [handleClient, parsed, except_ok_bind, Except.ok.injEq]
  rcases target with reply | uri
  · simp
  · simp [served]

/-- A `GET` line whose URI is empty, or only a query string, makes `handle_client` throw
`std::out_of_range`, whatever the directory tree and the web root. -/
theorem handleClient_throws_on_empty_uri (fs : FileSystem) (webRoot : List Char) :
    handleClient fs webRoot "GET  HTTP/1.1\r\n\r\n".toList = .error (.outOfRange 1 0) ∧
      handleClient fs webRoot "GET ?x HTTP/1.1\r\n\r\n".toList = .error (.outOfRange 1 0) :=
  ⟨handleClient_eq_error_iff.mpr ⟨by decide, rfl⟩, handleClient_eq_error_iff.mpr ⟨by decide, rfl⟩⟩

/-! ## The web-root check -/

/-- The containment law of the web root: `resolve_path` answers the empty string or the
canonical path of a regular file whose components extend those of the canonical web root. -/
def ServesInsideRoot (fs : FileSystem) (webRoot : List Char) : Prop :=
  ∀ uri found, resolvePath fs webRoot uri = .ok found → found = [] ∨
    ∃ root path, fs.canonical webRoot = .ok root ∧ root <+: path ∧ fs.isRegularFile path ∧
      found = pathString path

/-- A web root `/srv/web`, reached from the working directory `/srv` as `./web`, next to a
directory `/srv/web2` holding a file. -/
def siblingTree : FileSystem where
  entries :=
    [(["srv".toList], .directory), (["srv".toList, "web".toList], .directory),
      (["srv".toList, "web".toList, "index.html".toList], .regular (some "<html></html>".toList)),
      (["srv".toList, "web2".toList], .directory),
      (["srv".toList, "web2".toList, "secret".toList], .regular (some "s3cret".toList))]
  cwd := ["srv".toList]

/-- No path below `/srv/web` is written `/srv/web2/secret`. -/
theorem pathString_ne_of_web_prefix {path : List (List Char)}
    (below : ["srv".toList, "web".toList] <+: path) :
    pathString path ≠ "/srv/web2/secret".toList := by
  obtain ⟨rest, rfl⟩ := below
  cases rest <;> simp [pathString]

/-- The string comparison of `resolve_path` lets `/../web2/secret` out of the web root
`./web`: `handle_client` sends the sibling's file, and the law of the web root fails. -/
theorem resolvePath_escapes_to_sibling :
    handleClient siblingTree "./web".toList "GET /../web2/secret HTTP/1.1\r\n\r\n".toList =
        .ok (.file "application/octet-stream".toList "s3cret".toList) ∧
      ¬ ServesInsideRoot siblingTree "./web".toList := by
  refine ⟨by decide, fun law => ?_⟩
  have served : resolvePath siblingTree "./web".toList "/../web2/secret".toList =
      .ok "/srv/web2/secret".toList := by decide
  have computed : siblingTree.canonical "./web".toList = .ok ["srv".toList, "web".toList] := by
    decide
  rcases law _ _ served with empty | ⟨root, path, rooted, below, -, named⟩
  · exact absurd empty (by decide)
  · cases computed.symm.trans rooted
    exact pathString_ne_of_web_prefix below named.symm

end HttpServer

end StreamServer
