/-
# Drivers

What the machine leaves to others: which keys have names and which of them can be pressed, and what the
answers of the network mean. Nothing is known about a driver but what its structure says.
-/
import Deskwork.Fault
import Deskwork.Journal

namespace Deskwork

/-! ## Keys -/

/-- The driver of the keyboard: the key that stands under a word, if there is one, and why a key cannot be
pressed or released, if it cannot. -/
structure KeyDriver where
  special? : String → Option Key
  pressFault? : Key → Option Foreign
  releaseFault? : Key → Option Foreign
  /-- No key stands under the empty word. -/
  special?_empty : special? "" = none

/-- The names of the keys of a common keyboard. -/
def KeyDriver.commonNames : List String :=
  ["alt", "alt_gr", "alt_l", "alt_r", "backspace", "caps_lock", "cmd", "cmd_l", "cmd_r", "ctrl",
    "ctrl_l", "ctrl_r", "delete", "down", "end", "enter", "esc", "f1", "f2", "f3", "f4", "f5",
    "f6", "f7", "f8", "f9", "f10", "f11", "f12", "home", "insert", "left", "menu", "num_lock",
    "page_down", "page_up", "pause", "print_screen", "right", "scroll_lock", "shift", "shift_l",
    "shift_r", "space", "tab", "up"]

/-- A driver of a common keyboard, which presses and releases every key. -/
def KeyDriver.common : KeyDriver where
  special? word := if commonNames.contains word then some (.special word) else none
  pressFault? _ := none
  releaseFault? _ := none
  special?_empty := rfl

/-! ## Requests -/

/-- The client of the network: the reason of a status, whether a status means success, and which faults say
that a request took too long or could not be sent. -/
structure WebClient where
  reasonOf : Int → String
  isSuccess : Int → Bool
  isTimeout : Foreign → Bool
  isTransport : Foreign → Bool

namespace WebClient

/-- The statuses with a reason. -/
def statusReasons : List (Int × String) :=
  [(100, "Continue"), (101, "Switching Protocols"), (102, "Processing"), (103, "Early Hints"),
    (200, "OK"), (201, "Created"), (202, "Accepted"), (203, "Non-Authoritative Information"),
    (204, "No Content"), (205, "Reset Content"), (206, "Partial Content"), (207, "Multi-Status"),
    (208, "Already Reported"), (226, "IM Used"), (300, "Multiple Choices"),
    (301, "Moved Permanently"), (302, "Found"), (303, "See Other"), (304, "Not Modified"),
    (305, "Use Proxy"), (307, "Temporary Redirect"), (308, "Permanent Redirect"),
    (400, "Bad Request"), (401, "Unauthorized"), (402, "Payment Required"), (403, "Forbidden"),
    (404, "Not Found"), (405, "Method Not Allowed"), (406, "Not Acceptable"),
    (407, "Proxy Authentication Required"), (408, "Request Timeout"), (409, "Conflict"),
    (410, "Gone"), (411, "Length Required"), (412, "Precondition Failed"),
    (413, "Request Entity Too Large"), (414, "Request-URI Too Long"),
    (415, "Unsupported Media Type"), (416, "Requested Range Not Satisfiable"),
    (417, "Expectation Failed"), (418, "I'm a teapot"), (421, "Misdirected Request"),
    (422, "Unprocessable Entity"), (423, "Locked"), (424, "Failed Dependency"),
    (425, "Too Early"), (426, "Upgrade Required"), (428, "Precondition Required"),
    (429, "Too Many Requests"), (431, "Request Header Fields Too Large"),
    (451, "Unavailable For Legal Reasons"), (500, "Internal Server Error"),
    (501, "Not Implemented"), (502, "Bad Gateway"), (503, "Service Unavailable"),
    (504, "Gateway Timeout"), (505, "HTTP Version Not Supported"),
    (506, "Variant Also Negotiates"), (507, "Insufficient Storage"), (508, "Loop Detected"),
    (510, "Not Extended"), (511, "Network Authentication Required")]

/-- The names of the faults of a request that took too long. -/
def timeoutNames : List String :=
  ["TimeoutException", "ReadTimeout", "ConnectTimeout", "PoolTimeout", "WriteTimeout"]

/-- The names of the other faults of a request that could not be sent. -/
def transportNames : List String :=
  ["HTTPError", "RequestError", "TransportError", "NetworkError", "ConnectError", "ReadError",
    "WriteError", "CloseError", "ProxyError", "TooManyRedirects", "ProtocolError",
    "LocalProtocolError", "RemoteProtocolError", "UnsupportedProtocol", "DecodingError"]

/-- A common client: an unknown status has no reason, and the statuses from 200 to 299 mean success. -/
def common : WebClient where
  reasonOf status := (statusReasons.lookup status).getD ""
  isSuccess status := 200 ≤ status && status ≤ 299
  isTimeout why := timeoutNames.contains why.name
  isTransport why := timeoutNames.contains why.name || transportNames.contains why.name

end WebClient

end Deskwork
