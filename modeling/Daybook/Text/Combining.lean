import Daybook.Text.Table

/-!
# Combining classes

The class of a combining mark says how marks after one letter are ordered.  Letters and all other
characters that start a cluster have class nought.
-/

namespace Daybook.Text

/-- Rows `first, last, class` of the characters with a combining class other than nought. -/
def classRows : PackedTable where
  bits := 21
  width := 3
  rows := 382
  words := #[
    0x18e000360006360031b00074000c6800634000dc0018c800c58001d0003150018a8003980062800300,
    0x19c000cd0001b8003330019480032800650003270006e000c9800646000ca00191000c84001b800320,
    0x6e000d240068e000e6001a3000d18001e000345001a2800398006880033d0006e000cf00067200001,
    0x1ac000398006ae003570006e000d58006a6000e6001a9000d40001b80034e001a6800398006980034a,
    0x1af800d7c001d40035e001ae8003a4006b80035c00073000d6c006b6000dc001ad000d64001d000358,
    0x6e00164400b22000e60024380120c001cc0036f001b18003a4006c40036200075000d84006c0000e9,
    0x2ce00037000b360059b0006f00166800b34000e6002cc80165c001b800596002cb00039800b2a00592,
    0x2d68016b4001cc005ac002d580037000b54005aa000730016a400b50000dc002d3801688001cc005a1,
    0x60016c800b640000b002d88016c400014005b0002d800039800b5e005af000720016b800b5c000de,
    0x2dc00004400b6e005b7000080016d800b6c0000f002da8016d40001c005b4002da00003400b66005b3,
    0x2df8016fc0002c005bd002de80005400b78005bc0000a0016ec00b7600013002dd0016e400024005b8,
    0x900171c00b8e000dc002e2801714001cc005c4002e200006400b84005c20000c00170400b8200017,
    0x32600006c00c960064b0001000186800c340001f0030c8018640003c006180030c00039800c2e00610,
    0x32880194400040006500032800007c00c9e0064f0000f00193800c9c0001d00326801934000380064c,
    0x6e00197000cb8000e60032d80195c001b8006560032a80039800ca8006530001100194800ca400021,
    0x37180039800dc4006df00073001b7000dac00023003380019c0001b80065f0032f80039800cbc0065d,
    0x376801bb4001cc006ec0037580037000dd4006ea00073001ba000dce000e600372001b90001b8006e3,
    0x6e001cd000e68000e600399801cc8001b8007310039880039800e600073000012001c4400e22000dc,
    0x39f00039800e7a0073d0006e001cf000e76000e60039d001ce8001b8007390039b80039800e6c00735,
    0x3a2801d14001b800744003a200039800e86007430006e001d0800e84000e6003a0801cfc001b80073e,
    0x73001fc400fd6000e6003a5001d24001b800748003a400039800e8e007470006e001d1800e8c000e6,
    0x412800398010460081b000730020640102c000dc003fe801ff4001cc007f3003f980037000fe4007f2,
    0x44f802270001b80089b0044c80039801130008980006e00216c010b2000e6004168020a4001cc00827,
    0x73002394011c8000dc0047180238c001cc008e10046a000370011a6008cf0007300233801194000e6,
    0x478000370011de008ed000730023b0011d4000dc004748023a4001cc008e800473800370011cc008e6,
    0x47c0023dc001b8008f60047b000398011ea008f30000e8023c8011e40001c004788023c400036008f0,
    0x73002544012a200009004a68025340000e0093c0049e000398011fe008fb0006e0023e8011f2000e6,
    0x51e000398013fc009fe000048027340139a00007004de0026f0001cc00954004a9800370012a400952,
    0x5a6802d340000e00b3c0059e0000240159a00acd00003802af00157800009005268029340000e00a3c,
    0x2d803158018ac000540062a8031540001200c4d0062680001c0187800c3c00004802f340179a00009,
    0x71c00002401b9400dca0000480353401a9a000090069e0034ec0001200ccd0066680001c0197800cbc,
    0x765803b200001200eba0075d0001d801d7200eb80003580392c01c90000090071d0038e8000ce00e39,
    0x40803dc401ee2000d80079c803ce4001b800f370079b80037001e6a00f350006e003c6401e300007a,
    0x7c200039801f0600f8200041003e0001f0000082007be803de80010800f74007ba00020801ee400f72,
    0x846804234000120103a0081c80001c0206e010370006e003f1801f8c000e6007c3803e180001200f84,
    0x73005f7402fba0000900be9005f48000120173400b9a00002402e2a0171400073004d7c026ba000dc,
    0xd0c0003980342e01a170006e0064ec03276000e600c9d0064e8001bc0193900c9c80039003152018a9,
    0xd5d006ad4001cc01ab400d58000370034fe01a7f000730069f0034ea0000900d30006980001b801a18,
    0x6e006b1003586000e600d61006b04001b801ac000d5f8003700357a01abd00073006af003576000dc,
    0xdb58000240368801b4400003806cd003668000e600d67006b2c001b801aca00d650003980359201ac5,
    0xdf9806fc80000e01be600df30000240375601baa00073006dcc036da000dc00db6006db0001cc01b6b,
    0x7300736c039b4000dc00e6c8073540000201cd400e6a000398039a401cd0000038070dc0386e00009,
    0xe7c000398039e801cf40006e0073b4039da0000100e74007388001cc01ce000e70000370039be01cdc,
    0xee600772c001b801dca00ee500039803b9201dc30006e00770803b84000e600ee0807700001cc01cf9,
    0x730077d403ba2000ca00ee8007740001b801dcf00ee780035803b9c01dce0007500773403b9a000e6,
    0xefe00039803bf601dfb0006d0077e803bf4000dc00efc8077e4001c801df800efb8003a003bec01df6,
    0x1069808348001cc020d10106800037003bfe01dff000730077f803bfc000dc00efe8077f4001d201dfc,
    0x808398041ca000e601070808384001cc020dc0106d800004041b4020d80007300835c041a800001,
    0x1078000370041de020ec000008083ac041d4000e6010748083a4001b8020e801074000398041ce020e7,
    0x181580c0ac001b40302a0181500039805bfe02de00000480b5fc05afe000e60167880b3bc001cc020f0,
    0x730299bc14cde000080184d00c264001c00302f018170003780605a0302d0007400c0b006058000e4,
    0x5462000024150580a82c0000482a0181500c000e605378829bc0001cc0a69f0534f00039814cfa0a674,
    0x54e002a7000000e0a9b3054d9800024152a60a9530006e02a4b415256000e60547882a380000120a8c4,
    0x7302aafc1557c000e60555c02aadc001b80aab40555a000398155660aab20007302aac01556000009,
    0x7f138003981fc4c0fe200000d03ec781f63c00009055f682afb4000120aaf60557b000398155820aac1,
    0x8506842834001cc1037a081bb000370205c0102e00006e0407f4203fa000e607f1783f8b8001b80fe2d,
    0x48428fc2147e000dc0851d0428e80000210a390851c8003982147010a380007304283c2141e000dc,
    0x87a400037021e8e10f4600073043ab021d56000e608693843490001b810ae608573000398215ca10ae5,
    0x87c1843e0c001cc10f82087c100037021ea010f4d00073043d3021e98000dc087a5843d2c001cc10f4a,
    0x48441fc220fe00009088380441c000012110460882300037021f0a10f8500073043e1021f08000dc,
    0x88e000001c222e611173000048444d022266000e6088810444000000e110ba0885d00002422172110b9,
    0x8975044ba80000e112e90897480001c2246c11236000048448d42246a00007088e504472800012111c0,
    0x484510822884000e6089ba044dc0001cc1136c089b30000242269a1134d00003844cf02267600009,
    0x8ae000002422b7e115bf0000384530c229860000908a61045308001cc1145e08a2f00001c2288c11446,
    0x8c1c8460e4000121172b08b9580001c22d6e116b700004845ad822d6c0000908b1f8458fc0000e115c0,
    0x48468d0234680000908cf00467800000e1194308ca18000242327c1193d000038460e82307400009,
    0x8ecb80002423a8a11d440000384750823a840000908e1f8470fc0001211a9908d4c8000242348e11a47,
    0xe8b3074594000021bc9e0de4f0000182dfe216ff00007305acd82d660000010b57a05abc00001211d97,
    0x730746243a30a000dc0e8c10745ec001b01d1720e8b70003883a2da1d16d000008745a43a2ce000d8,
    0xf00d8003983c0301e008000730780183c000000e60e922074908001cc1d1ad0e8d50003703a3161d18a,
    0xf177878bb0001cc1e2ae0f1570003983c26c1e130000730780a83c04c000e60f01207808c001cc1e021,
    0xe1e94a0f4a50003983d2921e9440006e07a3583d1a0000e6]

/-- The combining class of a character. -/
def combiningClass (c : Char) : Nat :=
  if c.toNat < 0x300 then 0
  else
    match classRows.rowOf? c.toNat with
    | none => 0
    | some row => if c.toNat ≤ classRows.cell row 1 then classRows.cell row 2 else 0

end Daybook.Text
