/-
  The keys of packet headers and bodies, and the status codes of responses.

  These numbers are the vocabulary that client and server share; everything else
  refers to them by name.
-/

set_option autoImplicit false

namespace TupleWire

/-! ## Header keys -/

namespace HeaderKey

/-- The request type of a request, the status of a response. -/
def code : UInt8 := 0x00
/-- The number that ties a response to its request. -/
def sync : UInt8 := 0x01
/-- The schema version that a request was built against or a server reports. -/
def schemaVersion : UInt8 := 0x05
/-- The stream that a request belongs to. -/
def streamId : UInt8 := 0x0a

end HeaderKey

/-! ## Body keys -/

namespace Key

def spaceId : UInt8 := 0x10
def indexId : UInt8 := 0x11
def limit : UInt8 := 0x12
def offset : UInt8 := 0x13
def iterator : UInt8 := 0x14
/-- The key of an index search. -/
def key : UInt8 := 0x20
/-- A tuple, an argument list or a list of update operations. -/
def tuple : UInt8 := 0x21
def functionName : UInt8 := 0x22
def userName : UInt8 := 0x23
def expression : UInt8 := 0x27
/-- The operations of an upsert. -/
def operations : UInt8 := 0x28
/-- The data of a response. -/
def data : UInt8 := 0x30
/-- The message of an error response, as a plain string. -/
def errorText : UInt8 := 0x31
/-- The extended error of an error response. -/
def error : UInt8 := 0x52
def version : UInt8 := 0x54
def features : UInt8 := 0x55
/-- The time that a transaction may take, in seconds. -/
def timeout : UInt8 := 0x56
def eventKey : UInt8 := 0x57
def eventData : UInt8 := 0x58
def spaceName : UInt8 := 0x5e
def indexName : UInt8 := 0x5f

/-- In an extended error, the stack of its entries. -/
def errorStack : UInt64 := 0x00
/-- In an entry of an error stack, the message. -/
def errorMessage : UInt64 := 0x03

end Key

/-! ## Response statuses and server errors -/

namespace Status

/-- The request was carried out. -/
def ok : UInt32 := 0x00
/-- Out-of-band data for a request that is still being carried out. -/
def chunk : UInt32 := 0x80
/-- The bit that marks an error; the other bits hold the error's code. -/
def errorBit : UInt32 := 0x8000

end Status

namespace ServerCode

/-- A primary key is already taken. -/
def tupleFound : UInt32 := 3
/-- There is no such stored procedure. -/
def noSuchProcedure : UInt32 := 33
/-- There is no such index. -/
def noSuchIndex : UInt32 := 35
/-- There is no such space. -/
def noSuchSpace : UInt32 := 36
/-- An operation names a field outside the tuple. -/
def noSuchField : UInt32 := 37
/-- The credentials were not accepted. -/
def credentials : UInt32 := 47
/-- The request type is not known. -/
def unknownRequestType : UInt32 := 48
/-- The request was built against another schema version. -/
def wrongSchemaVersion : UInt32 := 109

end ServerCode

/-- The system view that lists the spaces. -/
def spaceView : UInt32 := 281

/-- The system view that lists the indexes. -/
def indexView : UInt32 := 289

end TupleWire
