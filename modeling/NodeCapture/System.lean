import NodeCapture.Text.Quoted

/-!
# The local machine

    What the program asks of the machine that it runs on: files and directories, and the
    errors that these requests end with.
-/

namespace NodeCapture

/-! ## Errors of the operating system

    An error is a number and the path that it arose on. The texts are those of Linux. -/

/-- The texts of the error numbers. -/
def osErrorTexts : List (Int × String) := [
  (0, "Success"), (1, "Operation not permitted"), (2, "No such file or directory"),
  (3, "No such process"), (4, "Interrupted system call"), (5, "Input/output error"),
  (6, "No such device or address"), (7, "Argument list too long"), (8, "Exec format error"),
  (9, "Bad file descriptor"), (10, "No child processes"),
  (11, "Resource temporarily unavailable"), (12, "Cannot allocate memory"),
  (13, "Permission denied"), (14, "Bad address"), (15, "Block device required"),
  (16, "Device or resource busy"), (17, "File exists"), (18, "Invalid cross-device link"),
  (19, "No such device"), (20, "Not a directory"), (21, "Is a directory"),
  (22, "Invalid argument"), (23, "Too many open files in system"), (24, "Too many open files"),
  (25, "Inappropriate ioctl for device"), (26, "Text file busy"), (27, "File too large"),
  (28, "No space left on device"), (29, "Illegal seek"), (30, "Read-only file system"),
  (31, "Too many links"), (32, "Broken pipe"), (33, "Numerical argument out of domain"),
  (34, "Numerical result out of range"), (35, "Resource deadlock avoided"),
  (36, "File name too long"), (37, "No locks available"), (38, "Function not implemented"),
  (39, "Directory not empty"), (40, "Too many levels of symbolic links"),
  (42, "No message of desired type"), (43, "Identifier removed"),
  (44, "Channel number out of range"), (45, "Level 2 not synchronized"), (46, "Level 3 halted"),
  (47, "Level 3 reset"), (48, "Link number out of range"), (49, "Protocol driver not attached"),
  (50, "No CSI structure available"), (51, "Level 2 halted"), (52, "Invalid exchange"),
  (53, "Invalid request descriptor"), (54, "Exchange full"), (55, "No anode"),
  (56, "Invalid request code"), (57, "Invalid slot"), (59, "Bad font file format"),
  (60, "Device not a stream"), (61, "No data available"), (62, "Timer expired"),
  (63, "Out of streams resources"), (64, "Machine is not on the network"),
  (65, "Package not installed"), (66, "Object is remote"), (67, "Link has been severed"),
  (68, "Advertise error"), (69, "Srmount error"), (70, "Communication error on send"),
  (71, "Protocol error"), (72, "Multihop attempted"), (73, "RFS specific error"),
  (74, "Bad message"), (75, "Value too large for defined data type"),
  (76, "Name not unique on network"), (77, "File descriptor in bad state"),
  (78, "Remote address changed"), (79, "Can not access a needed shared library"),
  (80, "Accessing a corrupted shared library"), (81, ".lib section in a.out corrupted"),
  (82, "Attempting to link in too many shared libraries"),
  (83, "Cannot exec a shared library directly"),
  (84, "Invalid or incomplete multibyte or wide character"),
  (85, "Interrupted system call should be restarted"), (86, "Streams pipe error"),
  (87, "Too many users"), (88, "Socket operation on non-socket"),
  (89, "Destination address required"), (90, "Message too long"),
  (91, "Protocol wrong type for socket"), (92, "Protocol not available"),
  (93, "Protocol not supported"), (94, "Socket type not supported"),
  (95, "Operation not supported"), (96, "Protocol family not supported"),
  (97, "Address family not supported by protocol"), (98, "Address already in use"),
  (99, "Cannot assign requested address"), (100, "Network is down"),
  (101, "Network is unreachable"), (102, "Network dropped connection on reset"),
  (103, "Software caused connection abort"), (104, "Connection reset by peer"),
  (105, "No buffer space available"), (106, "Transport endpoint is already connected"),
  (107, "Transport endpoint is not connected"),
  (108, "Cannot send after transport endpoint shutdown"),
  (109, "Too many references: cannot splice"), (110, "Connection timed out"),
  (111, "Connection refused"), (112, "Host is down"), (113, "No route to host"),
  (114, "Operation already in progress"), (115, "Operation now in progress"),
  (116, "Stale file handle"), (117, "Structure needs cleaning"),
  (118, "Not a XENIX named type file"), (119, "No XENIX semaphores available"),
  (120, "Is a named type file"), (121, "Remote I/O error"), (122, "Disk quota exceeded"),
  (123, "No medium found"), (124, "Wrong medium type"), (125, "Operation canceled"),
  (126, "Required key not available"), (127, "Key has expired"), (128, "Key has been revoked"),
  (129, "Key was rejected by service"), (130, "Owner died"), (131, "State not recoverable"),
  (132, "Operation not possible due to RF-kill"), (133, "Memory page has hardware error")]

/-- The text of an error number. -/
def osErrorText (code : Int) : String :=
  match osErrorTexts.find? (fun e => e.1 == code) with
  | some e => e.2
  | none => "Unknown error " ++ integerText code

/-- An error of the operating system on a path. -/
structure OsError where
  code : Int
  path : String
  deriving DecidableEq

/-- The wording of an error. -/
def OsError.message (e : OsError) : String :=
  "[Errno " ++ integerText e.code ++ "] " ++ osErrorText e.code ++ ": " ++ quoted e.path

/-! ## Local paths and directories

    A path is the list of its components from the innermost outward, so that a parent is
    a tail. Which path a text names is for the machine to say: it may follow links, and
    it may have lost the directory that it works in. Where there are no links and the
    working directory is the root, resolving a text expands a home directory at its head
    and removes empty components, single dots and double dots. Of the file system only
    the directories and files that matter are kept. -/

/-- An absolute path: its components, innermost first. -/
abbrev LocalPath := List String

/-- Why a text names no path. -/
inductive PathFault where
  | nullByte
  | noHome
  | linkLoop (path : String)
  | system (code : Int)
  deriving DecidableEq

/-- The wording of a path fault. -/
def PathFault.message : PathFault → String
  | .nullByte => "embedded null byte"
  | .noHome => "Could not determine home directory."
  | .linkLoop path => "Symlink loop from " ++ quoted path
  | .system code => "[Errno " ++ integerText code ++ "] " ++ osErrorText code

namespace LocalPath

/-- The text of a path. -/
def text (path : LocalPath) : String :=
  match path with
  | [] => "/"
  | _ => String.join (path.reverse.map (fun name => "/" ++ name))

/-- The components of a text in their order, without empty ones and single dots. -/
def components (text : List Char) : List String :=
  ((text.splitOn '/').filter (fun part => !part.isEmpty && part != ['.'])).map String.ofList

/-- Goes one component on from a directory; a double dot goes to the parent. -/
def step (path : LocalPath) (name : String) : LocalPath :=
  if name = ".." then path.tail else name :: path

/-- Goes on along some components. -/
def follow (path : LocalPath) (names : List String) : LocalPath := names.foldl step path

/-- The longest name of a file, in bytes. -/
def nameLimit : Nat := 255

/-- The longest text of a path, in bytes. -/
def pathLimit : Nat := 4095

/-- The path that a text names where there are no links and the working directory is the
    root. -/
def resolve (homes : List (String × LocalPath)) (text : String) : Except PathFault LocalPath :=
  let chars := text.toList
  let names := components chars
  let expanded : Except PathFault LocalPath :=
    match names with
    | [] => .ok []
    | first :: rest =>
      match chars.head?, first.toList with
      | some '/', _ => .ok (follow [] names)
      | _, '~' :: user =>
        if user.contains (Char.ofNat 0) then .error .nullByte
        else match homes.find? (fun h => h.1 == String.ofList user) with
          | some home => .ok (follow home.2 rest)
          | none => .error .noHome
      | _, _ => .ok (follow [] names)
  match expanded with
  | .error fault => .error fault
  | .ok path => if chars.contains (Char.ofNat 0) then .error .nullByte else .ok path

end LocalPath

/-- The directories and files of the machine, where its users are at home, and which paths
    texts name. -/
structure LocalFiles where
  directories : List LocalPath
  files : List LocalPath
  homes : List (String × LocalPath)
  resolve : String → Except PathFault LocalPath := LocalPath.resolve homes

namespace LocalFiles

/-- A machine without links, with the system directories, the null device and one user
    beside the administrator. -/
def basic (home : LocalPath) : LocalFiles where
  directories := [[], ["tmp"], ["dev"]]
  files := [["null", "dev"]]
  homes := [("", home), ("root", ["root"])]

/-- The path that a text names, where a home directory that is not known stands for
    itself. -/
def locate (files : LocalFiles) (text : String) : Except PathFault LocalPath :=
  let chars := text.toList
  let plain : LocalPath := LocalPath.follow [] (LocalPath.components chars)
  if chars.contains (Char.ofNat 0) then .error .nullByte
  else match chars with
    | '~' :: rest =>
      match files.homes.find? (fun h => h.1.toList == rest.takeWhile (· != '/')) with
      | some home =>
        .ok (LocalPath.follow home.2 (LocalPath.components (rest.dropWhile (· != '/'))))
      | none => .ok plain
    | _ => .ok plain

/-- Whether a path is a directory. -/
def isDirectory (files : LocalFiles) (path : LocalPath) : Bool := files.directories.contains path

/-- Whether a path is there. -/
def pathExists (files : LocalFiles) (path : LocalPath) : Bool :=
  files.isDirectory path || files.files.contains path

/-- The error number met on the way to a path, if the path cannot be reached as a name in
    a directory. -/
def reachError (files : LocalFiles) : LocalPath → Option Int
  | [] => none
  | name :: parent =>
    match reachError files parent with
    | some code => some code
    | none =>
      if files.files.contains parent then some 20
      else if !files.isDirectory parent then some 2
      else if LocalPath.nameLimit < name.utf8ByteSize then some 36
      else none

/-- Makes one directory. -/
def makeDirectory (files : LocalFiles) (path : LocalPath) : Except Int LocalFiles :=
  if LocalPath.pathLimit < (LocalPath.text path).utf8ByteSize then .error 36
  else match files.reachError path with
    | some code => .error code
    | none =>
      if files.pathExists path then .error 17
      else .ok { files with directories := path :: files.directories }

/-- Makes one directory, which may be there already. -/
def ensureDirectory (files : LocalFiles) (path : LocalPath) : Except OsError LocalFiles :=
  match files.makeDirectory path with
  | .ok files => .ok files
  | .error code => if files.isDirectory path then .ok files else .error ⟨code, LocalPath.text path⟩

/-- Makes a directory and the parents that it lacks. -/
def ensureDirectories (files : LocalFiles) : LocalPath → Except OsError LocalFiles
  | [] => files.ensureDirectory []
  | name :: parent =>
    match files.makeDirectory (name :: parent) with
    | .ok files => .ok files
    | .error code =>
      if code == 2 then
        match ensureDirectories files parent with
        | .ok files => files.ensureDirectory (name :: parent)
        | .error e => .error e
      else files.ensureDirectory (name :: parent)

/-- Whether a text, as it stands, leads to a directory by way of directories alone. -/
def leadsToDirectory (files : LocalFiles) (text : String) : Bool :=
  let steps (path : Option LocalPath) (name : String) : Option LocalPath :=
    match path with
    | none => none
    | some p => if files.isDirectory p then some (LocalPath.step p name) else none
  match (LocalPath.components text.toList).foldl steps (some []) with
  | some path => files.isDirectory path
  | none => false

end LocalFiles

end NodeCapture
