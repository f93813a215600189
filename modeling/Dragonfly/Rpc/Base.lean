import Mathlib.Init

/-!
# Messages of the `base` protocol

The messages of `pkg/rpc/base/base.proto` that the piece-task servers of the CDN and of the
dfdaemon exchange. Strings are lists of characters; `PieceStyle` is its `int32` value.
-/

namespace Dragonfly.Rpc

/-- `base.PieceTaskRequest` (`base.pb.go:472`); `Limit = 0` asks for every piece. -/
structure PieceTaskRequest where
  taskId : List Char
  srcPid : List Char
  dstPid : List Char
  startNum : UInt32
  limit : UInt32
  deriving DecidableEq, Repr

/-- `base.PieceInfo` (`base.pb.go:553`). -/
structure PieceInfo where
  pieceNum : Int32
  rangeStart : UInt64
  rangeSize : UInt32
  pieceMd5 : List Char
  pieceOffset : UInt64
  pieceStyle : Int32
  deriving DecidableEq, Repr

/-- `base.PiecePacket` (`base.pb.go:641`). -/
structure PiecePacket where
  taskId : List Char
  dstPid : List Char
  dstAddr : List Char
  pieceInfos : List PieceInfo
  totalPiece : Int32
  contentLength : Int64
  pieceMd5Sign : List Char
  deriving DecidableEq, Repr

end Dragonfly.Rpc
