import Daybook.Text.Combining
import Daybook.Text.Decomposition

/-!
# Normal forms

A letter with marks can be written in several ways.  `compose` picks the composed way, in which as
many marks as possible are part of their letter; `decomposeAll` picks the decomposed way.

* `sortMarks`: puts the marks after each letter into the order of their classes.
* `compose`: the composed normal form of a text.
* `decomposeAll`: the compatibility-decomposed normal form of a text.
-/

namespace Daybook.Text

/-! ## The order of marks -/

/-- Inserts a mark of class `k` into a run of marks, behind all marks of its class or a lower
one.  The run is given from its end. -/
def insertMark (k : Nat) (c : Char) : List Char → List Char
  | [] => [c]
  | d :: before =>
    if combiningClass d ≤ k then c :: d :: before else d :: insertMark k c before

/-- Sorts each run of marks by combining class and keeps the order inside a class.  `marks` is the
run that is being collected, from its end. -/
def sortMarksAfter (marks : List Char) : List Char → List Char
  | [] => marks.reverse
  | c :: rest =>
    match combiningClass c with
    | 0 => marks.reverse ++ c :: sortMarksAfter [] rest
    | k => sortMarksAfter (insertMark k c marks) rest

/-- Sorts each run of marks by combining class and keeps the order inside a class. -/
def sortMarks (cs : List Char) : List Char :=
  sortMarksAfter [] cs

/-! ## Composition -/

/-- Rows `pair, composite`: a pair is its first character times `2 ^ 21` plus its second. -/
def pairRows : PackedTable where
  bits := 42
  width := 2
  rows := 941
  words := #[
    0x3000008200300000000089bc0007c00338000000089800007a00338000000089b80007800338,
    0x40000082003040000000030c0008200303000000003080008200302000000003040008200301,
    0x7a880008200309000000003100008200308000000008980008200307000000004080008200306,
    0x808000820031100000000800000820030f00000000734000820030c00000000314000820030a,
    0x7808000840030700000000410000820032800000007800000820032500000007a800008200323,
    0x4200008600302000000004180008600301000000078180008400331000000078100008400323,
    0x782800088003070000000031c000860032700000000430000860030c000000004280008600307,
    0x7848000880032d00000007840000880032700000007830000880032300000000438000880030c,
    0x3280008a00302000000003240008a00301000000003200008a00300000000078380008800331,
    0x4580008a00307000000004500008a00306000000004480008a0030400000007af00008a00303,
    0x8100008a0030f000000004680008a0030c00000007ae80008a003090000000032c0008a00308,
    0x4600008a00328000000008a00008a0032700000007ae00008a00323000000008180008a00311,
    0x7d00008e00301000000078780008c00307000000078680008a00330000000078600008a0032d,
    0x4800008e00307000000004780008e00306000000078800008e00304000000004700008e00302,
    0x78880009000307000000004900009000302000000004880008e00327000000007980008e0030c,
    0x78a0000900032700000007890000900032300000000878000900030c000000078980009000308,
    0x3380009200302000000003340009200301000000003300009200300000000078a8000900032e,
    0x4c00009200307000000004b00009200306000000004a80009200304000000004a00009200303,
    0x820000920030f0000000073c000920030c00000007b2000092003090000000033c0009200308,
    0x78b00009200330000000004b8000920032800000007b280009200323000000008280009200311,
    0x78c80009600323000000007a0000960030c000000078c00009600301000000004d00009400302,
    0x4f4000980030c000000004e40009800301000000078d00009600331000000004d80009600327,
    0x78e80009800331000000078f0000980032d000000004ec0009800327000000078d80009800323,
    0x7e00009c00300000000079080009a00323000000079000009a00307000000078f80009a00301,
    0x51c0009c0030c000000079100009c00307000000003440009c003030000000050c0009c00301,
    0x79200009c00331000000079280009c0032d000000005140009c00327000000079180009c00323,
    0x3540009e00303000000003500009e003020000000034c0009e00301000000003480009e00300,
    0x3580009e00308000000008b80009e00307000000005380009e00306000000005300009e00304,
    0x8300009e0030f000000007440009e0030c000000005400009e0030b00000007b380009e00309,
    0x7a80009e0032800000007b300009e00323000000006800009e0031b000000008380009e00311,
    0x7960000a40030700000000550000a40030100000007958000a00030700000007950000a000301,
    0x7968000a40032300000000848000a40031100000000840000a40030f00000000560000a40030c,
    0x570000a60030200000000568000a60030100000007978000a40033100000000558000a400327,
    0x860000a60032600000007988000a60032300000000580000a60030c00000007980000a600307,
    0x79b0000a80032300000000590000a80030c000000079a8000a80030700000000578000a600327,
    0x79b8000a800331000000079c0000a80032d00000000588000a80032700000000868000a800326,
    0x5a0000aa003030000000036c000aa0030200000000368000aa0030100000000364000aa00300,
    0x7b98000aa0030900000000370000aa00308000000005b0000aa00306000000005a8000aa00304,
    0x850000aa0030f0000000074c000aa0030c000000005c0000aa0030b000000005b8000aa0030a,
    0x79c8000aa0032400000007b90000aa00323000000006bc000aa0031b00000000858000aa00311,
    0x79f0000ac00303000000079d0000aa00330000000079d8000aa0032d000000005c8000aa00328,
    0x5d0000ae0030200000007a08000ae0030100000007a00000ae00300000000079f8000ac00323,
    0x7a28000b00030700000007a20000ae0032300000007a10000ae0030800000007a18000ae00307,
    0x5d8000b20030200000000374000b20030100000007bc8000b20030000000007a30000b000308,
    0x5e0000b20030800000007a38000b200307000000008c8000b20030400000007be0000b200303,
    0x7a40000b400302000000005e4000b40030100000007bd0000b20032300000007bd8000b200309,
    0x7a50000b40033100000007a48000b400323000000005f4000b40030c000000005ec000b400307,
    0x38c000c20030300000000388000c20030200000000384000c20030100000000380000c200300,
    0x390000c2003080000000089c000c2003070000000040c000c20030600000000404000c200304,
    0x804000c20030f00000000738000c20030c00000000394000c20030a00000007a8c000c200309,
    0x414000c20032800000007804000c20032500000007a84000c2003230000000080c000c200311,
    0x41c000c6003010000000781c000c40033100000007814000c4003230000000780c000c400307,
    0x39c000c60032700000000434000c60030c0000000042c000c60030700000000424000c600302,
    0x7844000c80032700000007834000c8003230000000043c000c80030c0000000782c000c800307,
    0x3a4000ca00301000000003a0000ca003000000000783c000c8003310000000784c000c80032d,
    0x454000ca003060000000044c000ca0030400000007af4000ca00303000000003a8000ca00302,
    0x46c000ca0030c00000007aec000ca00309000000003ac000ca003080000000045c000ca00307,
    0x8a4000ca0032700000007ae4000ca003230000000081c000ca0031100000000814000ca0030f,
    0x787c000cc003070000000786c000ca0033000000007864000ca0032d00000000464000ca00328,
    0x47c000ce0030600000007884000ce0030400000000474000ce00302000000007d4000ce00301,
    0x494000d0003020000000048c000ce003270000000079c000ce0030c00000000484000ce00307,
    0x7894000d0003230000000087c000d00030c0000000789c000d0003080000000788c000d000307,
    0x3b0000d20030000000007a58000d000331000000078ac000d00032e000000078a4000d000327,
    0x4ac000d200304000000004a4000d200303000000003b8000d200302000000003b4000d200301,
    0x740000d20030c00000007b24000d200309000000003bc000d200308000000004b4000d200306,
    0x4bc000d20032800000007b2c000d2003230000000082c000d20031100000000824000d20030f,
    0x78c4000d600301000000007c0000d40030c000000004d4000d400302000000078b4000d200330,
    0x78d4000d600331000000004dc000d600327000000078cc000d600323000000007a4000d60030c,
    0x4f0000d800327000000078dc000d800323000000004f8000d80030c000000004e8000d800301,
    0x7904000da00307000000078fc000da00301000000078ec000d800331000000078f4000d80032d,
    0x3c4000dc0030300000000510000dc00301000000007e4000dc003000000000790c000da00323,
    0x518000dc003270000000791c000dc0032300000000520000dc0030c00000007914000dc00307,
    0x3cc000de00301000000003c8000de0030000000007924000dc003310000000792c000dc0032d,
    0x53c000de0030600000000534000de00304000000003d4000de00303000000003d0000de00302,
    0x544000de0030b00000007b3c000de00309000000003d8000de00308000000008bc000de00307,
    0x684000de0031b0000000083c000de0031100000000834000de0030f00000000748000de0030c,
    0x795c000e00030700000007954000e000301000000007ac000de0032800000007b34000de00323,
    0x844000e40030f00000000564000e40030c00000007964000e40030700000000554000e400301,
    0x797c000e4003310000000055c000e4003270000000796c000e4003230000000084c000e400311,
    0x584000e60030c00000007984000e60030700000000574000e6003020000000056c000e600301,
    0x79ac000e8003070000000057c000e60032700000000864000e6003260000000798c000e600323,
    0x86c000e800326000000079b4000e80032300000000594000e80030c00000007a5c000e800308,
    0x3e4000ea00300000000079bc000e800331000000079c4000e80032d0000000058c000e800327,
    0x5ac000ea00304000000005a4000ea00303000000003ec000ea00302000000003e8000ea00301,
    0x5bc000ea0030a00000007b9c000ea00309000000003f0000ea00308000000005b4000ea00306,
    0x85c000ea0031100000000854000ea0030f00000000750000ea0030c000000005c4000ea0030b,
    0x5cc000ea00328000000079cc000ea0032400000007b94000ea00323000000006c0000ea0031b,
    0x79fc000ec00323000000079f4000ec00303000000079d4000ea00330000000079dc000ea0032d,
    0x7a1c000ee00307000000005d4000ee0030200000007a0c000ee0030100000007a04000ee00300,
    0x7a2c000f00030700000007a24000ee0032300000007a60000ee0030a00000007a14000ee00308,
    0x5dc000f200302000000003f4000f20030100000007bcc000f20030000000007a34000f000308,
    0x3fc000f20030800000007a3c000f200307000000008cc000f20030400000007be4000f200303,
    0x5e8000f40030100000007bd4000f20032300000007a64000f20030a00000007bdc000f200309,
    0x7a4c000f400323000000005f8000f40030c000000005f0000f40030700000007a44000f400302,
    0x7f04001500034200000000e14001500030100000007fb4001500030000000007a54000f400331,
    0x7aa0001840030900000007aa8001840030300000007a90001840030100000007a980018400300,
    0x7880018c00304000000007f00018c00301000000007e80018a00301000000007780018800304,
    0x7b10001940030300000007af8001940030100000007b000019400300000000078200018e00301,
    0x7b40001a80030100000007b48001a800300000000078b80019e0030100000007b080019400309,
    0x8b0001aa0030400000007930001aa0030100000007b50001a80030900000007b58001a800303,
    0x76c001b800300000000007f8001b000301000000008a8001ac0030400000007938001aa00308,
    0x7a9c001c40030000000000764001b80030c00000000754001b8003040000000075c001b800301,
    0x77c001c80030400000007aa4001c40030900000007aac001c40030300000007a94001c400301,
    0x7824001ce003010000000078c001cc00304000000007f4001cc00301000000007ec001ca00301,
    0x7b0c001d40030900000007b14001d40030300000007afc001d40030100000007b04001d400300,
    0x7b5c001e80030300000007b44001e80030100000007b4c001e800300000000078bc001de00301,
    0x793c001ea00308000000008b4001ea0030400000007934001ea0030100000007b54001e800309,
    0x760001f80030100000000770001f800300000000007fc001f000301000000008ac001ec00304,
    0x7ab8002040030100000007ac0002040030000000000768001f80030c00000000758001f800304,
    0x7abc002060030100000007ac4002060030000000007ac8002040030900000007ad00020400303,
    0x7858002240030100000007850002240030000000007acc002060030900000007ad40020600303,
    0x794800298003010000000794000298003000000000785c0022600301000000078540022600300,
    0x7994002b60030700000007990002b4003070000000794c0029a00301000000079440029a00300,
    0x79e4002d200301000000079e0002d0003010000000799c002c20030700000007998002c000307,
    0x7b70003400030000000007a6c002fe00307000000079ec002d600308000000079e8002d400308,
    0x7b88003400032300000007b78003400030900000007b80003400030300000007b680034000301,
    0x7b7c003420030900000007b84003420030300000007b6c003420030100000007b740034200300,
    0x7bb80035e0030300000007ba00035e0030100000007ba80035e0030000000007b8c0034200323,
    0x7ba4003600030100000007bac003600030000000007bc00035e0032300000007bb00035e00309,
    0x7b80036e0030c00000007bc4003600032300000007bb4003600030900000007bbc0036000303,
    0x7840044e00304000000007800044c00304000000007b4003d600304000000007b0003d400304,
    0x8c40045e00304000000008c00045c00304000000078740045200306000000078700045000306,
    0x7ee4007220030400000000e18007220030100000007ee80072200300000000007bc005240030c,
    0x7ef0007220034500000007c24007220031400000007c20007220031300000007ee00072200306,
    0x7c640072a0031400000007c600072a0031300000000e200072a0030100000007f200072a00300,
    0x7ca40072e0031400000007ca00072e0031300000000e240072e0030100000007f280072e00300,
    0x7f64007320030400000000e28007320030100000007f68007320030000000007f300072e00345,
    0x7ce4007320031400000007ce0007320031300000000ea8007320030800000007f600073200306,
    0x7d240073e0031400000007d200073e0031300000000e300073e0030100000007fe00073e00300,
    0x7fa40074a0030400000000e380074a0030100000007fa80074a0030000000007fb00074200314,
    0x7fe8007520030000000007d640074a0031400000000eac0074a0030800000007fa00074a00306,
    0x7ff0007520034500000007da4007520031400000007da0007520031300000000e3c0075200301,
    0xeb0007620030100000007dc0007620030000000007f100075c0034500000007ed00075800345,
    0x7c04007620031400000007c00007620031300000007ec0007620030600000007ec40076200304,
    0xeb40076a0030100000007dc80076a0030000000007ecc007620034500000007ed80076200342,
    0xeb80076e0030100000007dd00076e0030000000007c440076a0031400000007c400076a00313,
    0x7f0c0076e0034500000007f180076e0034200000007c840076e0031400000007c800076e00313,
    0x7f40007720030600000007f44007720030400000000ebc007720030100000007dd80077200300,
    0x7f58007720034200000007cc4007720031400000007cc0007720031300000000f280077200308,
    0x7d040077e0031400000007d000077e0031300000000f300077e0030100000007de00077e00300,
    0xf340078a0030100000007de80078a0030000000007f94007820031400000007f900078200313,
    0x7d400078a0031300000000f2c0078a0030800000007f800078a0030600000007f840078a00304,
    0xf38007920030100000007df0007920030000000007f980078a0034200000007d440078a00314,
    0x7fcc007920034500000007fd8007920034200000007d84007920031400000007d800079200313,
    0x7f88007960030000000007f5c007940034200000000e40007940030100000007f480079400300,
    0xf4c007a40030100000007fd00079c0034500000007f9c007960034200000000ec00079600301,
    0x134800820003080000000134000820003060000000101c0080c0030800000000f50007a400308,
    0x10040082a00308000000013580082a00306000000010000082a003000000000100c0082600301,
    0x10340083000300000000013780082e00308000000013700082c00308000000013040082c00306,
    0x10300083400301000000013900083000308000000010640083000306000000013880083000304,
    0x13c00084600308000000010380084600306000000013b80084600304000000013980083c00308,
    0x13b00085a00308000000013e00085600308000000013d00084e00308000000013c8008460030b,
    0x11400086a003000000000114c00866003010000000134c0086000308000000013440086000306,
    0x13740086c00308000000013080086c00306000000011440086a003080000000135c0086a00306,
    0x10e400870003060000000138c00870003040000000117400870003000000000137c0086e00308,
    0x13bc00886003040000000139c0087c00308000000011700087400301000000013940087000308,
    0x13d40088e00308000000013cc008860030b000000013c40088600308000000011780088600306,
    0x11d8008e80030f0000000115c008ac00308000000013b40089a00308000000013e40089600308,
    0x13a8009d0003080000000136c009b20030800000001368009b000308000000011dc008ea0030f,
    0x189400c4e006550000000188c00c4e006540000000188800c4e00653000000013ac009d200308,
    0x1b4c00da40065400000001b0800d82006540000000189800c94006540000000189000c9000654,
    0x24d0012660093c000000024c4012600093c000000024a4012500093c00000001b0000daa00654,
    0x2d200168e00b5600000002d2c0168e00b3e000000027300138e009d70000000272c0138e009be,
    0x2f300178c00bd700000002f280178c00bbe00000002e500172400bd700000002d300168e00b57,
    0x33280198c00cc2000000033000197e00cd5000000031200188c00c5600000002f2c0178e00bbe,
    0x352801a8c00d3e0000000332c0199400cd5000000033200198c00cd60000000331c0198c00cd5,
    0x377001bb200dcf0000000376801bb200dca0000000352c01a8e00d3e0000000353001a8c00d57,
    0x6c180360a01b35000000040980204a0102e0000000377401bb800dca0000000377801bb200ddf,
    0x6c380361a01b3500000006c300361601b3500000006c280361201b3500000006c200360e01b35,
    0x6d000367c01b3500000006cf40367801b3500000006cec0367401b3500000006c480362201b35,
    0x78e403c6e00304000000078e003c6c0030400000006d0c0368401b3500000006d040367e01b35,
    0x79a403cc600307000000079a003cc4003070000000797403cb6003040000000797003cb400304,
    0x7adc03d420030600000007ab403d420030200000007ad803d400030600000007ab003d4000302,
    0x7b6403d9a0030200000007b6003d980030200000007b1c03d720030200000007b1803d7000302,
    0x7e0003e000034500000007c1803e000034200000007c1003e000030100000007c0803e0000300,
    0x7e0403e020034500000007c1c03e020034200000007c1403e020030100000007c0c03e0200300,
    0x7e1403e0a0034500000007e1003e080034500000007e0c03e060034500000007e0803e0400345,
    0x7c3003e100030100000007c2803e100030000000007e1c03e0e0034500000007e1803e0c00345,
    0x7c3403e120030100000007c2c03e120030000000007e2003e100034500000007c3803e1000342,
    0x7e2c03e160034500000007e2803e140034500000007e2403e120034500000007c3c03e1200342,
    0x7e3c03e1e0034500000007e3803e1c0034500000007e3403e1a0034500000007e3003e1800345,
    0x7c5403e220030100000007c4c03e220030000000007c5003e200030100000007c4803e2000300,
    0x7c7403e320030100000007c6c03e320030000000007c7003e300030100000007c6803e3000300,
    0x7e4003e400034500000007c9803e400034200000007c9003e400030100000007c8803e4000300,
    0x7e4403e420034500000007c9c03e420034200000007c9403e420030100000007c8c03e4200300,
    0x7e5403e4a0034500000007e5003e480034500000007e4c03e460034500000007e4803e4400345,
    0x7cb003e500030100000007ca803e500030000000007e5c03e4e0034500000007e5803e4c00345,
    0x7cb403e520030100000007cac03e520030000000007e6003e500034500000007cb803e5000342,
    0x7e6c03e560034500000007e6803e540034500000007e6403e520034500000007cbc03e5200342,
    0x7e7c03e5e0034500000007e7803e5c0034500000007e7403e5a0034500000007e7003e5800345,
    0x7ccc03e620030000000007cd803e600034200000007cd003e600030100000007cc803e6000300,
    0x7cf003e700030100000007ce803e700030000000007cdc03e620034200000007cd403e6200301,
    0x7cfc03e720034200000007cf403e720030100000007cec03e720030000000007cf803e7000342,
    0x7d1403e820030100000007d0c03e820030000000007d1003e800030100000007d0803e8000300,
    0x7d3403e920030100000007d2c03e920030000000007d3003e900030100000007d2803e9000300,
    0x7d4c03ea20030000000007d5803ea00034200000007d5003ea00030100000007d4803ea000300,
    0x7d7403eb20030100000007d6c03eb20030000000007d5c03ea20034200000007d5403ea200301,
    0x7d9803ec00034200000007d9003ec00030100000007d8803ec00030000000007d7c03eb200342,
    0x7d9c03ec20034200000007d9403ec20030100000007d8c03ec20030000000007e8003ec000345,
    0x7e9003ec80034500000007e8c03ec60034500000007e8803ec40034500000007e8403ec200345,
    0x7da803ed00030000000007e9c03ece0034500000007e9803ecc0034500000007e9403eca00345,
    0x7dac03ed20030000000007ea003ed00034500000007db803ed00034200000007db003ed000301,
    0x7ea803ed40034500000007ea403ed20034500000007dbc03ed20034200000007db403ed200301,
    0x7eb803edc0034500000007eb403eda0034500000007eb003ed80034500000007eac03ed600345,
    0x7fc803ef80034500000007f0803ee80034500000007ec803ee00034500000007ebc03ede00345,
    0x7f3c03f7e0034200000007f3803f7e0030100000007f3403f7e0030000000007edc03f6c00345,
    0x7f7803ffc0030100000007f7403ffc0030000000007fdc03fec0034500000007f1c03f8c00345,
    0x86b804328003380000000866c043240033800000008668043200033800000007f7c03ffc00342,
    0x8810044060033800000008738043a8003380000000873c043a40033800000008734043a000338,
    0x88980444a00338000000088900444600338000000088300441600338000000088240441000338,
    0x892404490003380000000891c0448a00338000000089100448600338000000089040447800338,
    0x89c4044ca00338000000089c0044c80033800000008988044c200338000000089b40449a00338,
    0x89e4044ee00338000000089e0044ec00338000000089d4044e600338000000089d0044e400338,
    0x8b84044fa0033800000008b80044f80033800000008a04044f60033800000008a00044f400338,
    0x8a240450e0033800000008a200450c0033800000008a14045060033800000008a100450400338,
    0x8ab4045500033800000008ab0045440033800000008b8c045240033800000008b880452200338,
    0x8bac045660033800000008ba8045640033800000008abc045560033800000008ab80455200338,
    0xc13006096030990000000c2500608c0309900000008bb40456a0033800000008bb00456800338,
    0xc150060a6030990000000c148060a2030990000000c1400609e030990000000c1380609a03099,
    0xc170060b6030990000000c168060b2030990000000c160060ae030990000000c158060aa03099,
    0xc194060c8030990000000c188060c2030990000000c180060be030990000000c178060ba03099,
    0xc1c4060de0309a0000000c1c0060de030990000000c1a4060d0030990000000c19c060cc03099,
    0xc1dc060ea0309a0000000c1d8060ea030990000000c1d0060e40309a0000000c1cc060e403099,
    0xc1f4060f60309a0000000c1f0060f6030990000000c1e8060f00309a0000000c1e4060f003099,
    0xc2b80615a030990000000c2b006156030990000000c3d00614c030990000000c2780613a03099,
    0xc2d80616a030990000000c2d006166030990000000c2c806162030990000000c2c00615e03099,
    0xc2f80617a030990000000c2f006176030990000000c2e806172030990000000c2e00616e03099,
    0xc31c0618c030990000000c31406188030990000000c30806182030990000000c3000617e03099,
    0xc34c061a4030990000000c3440619e0309a0000000c3400619e030990000000c3240619003099,
    0xc364061b0030990000000c35c061aa0309a0000000c358061aa030990000000c350061a40309a,
    0xc3dc061de030990000000c374061b60309a0000000c370061b6030990000000c368061b00309a,
    0xc3f8061fa030990000000c3e8061e4030990000000c3e4061e2030990000000c3e0061e003099,
    0x444b82226211127000000442ac2214a110ba0000004427022136110ba0000004426822132110ba,
    0x452f022972114b000000044d302268e1135700000044d2c2268e1133e000000444bc2226411127,
    0x456ec22b72115af000000456e822b70115af000000452f822972114bd000000452ec22972114ba,
    0x464e02326a11930]

/-- The Hangul syllable of two parts: a lead and a vowel, or a syllable without a tail and a
tail. -/
def composeHangul? (a b : Nat) : Option Nat :=
  if 0x1100 ≤ a ∧ a < 0x1113 ∧ 0x1161 ≤ b ∧ b < 0x1176 then
    some (0xAC00 + ((a - 0x1100) * 21 + (b - 0x1161)) * 28)
  else if 0xAC00 ≤ a ∧ a ≤ 0xD7A3 ∧ (a - 0xAC00) % 28 = 0 ∧ 0x11A7 < b ∧ b < 0x11C3 then
    some (a + (b - 0x11A7))
  else none

/-- The character that a character and a mark compose to. -/
def composePair? (a b : Char) : Option Char :=
  match composeHangul? a.toNat b.toNat with
  | some code => some (Char.ofNat code)
  | none =>
    if b.toNat < 0x300 then none
    else
      let key := a.toNat * 2097152 + b.toNat
      match pairRows.rowOf? key with
      | none => none
      | some row =>
        if pairRows.cell row 0 = key then some (Char.ofNat (pairRows.cell row 1)) else none

/-- Composes a cluster.  `starter` is its letter, `kept` are the characters after it that could
not be composed, from their end, and `barrier` is the class of the last of them.  A mark behind a
kept one of the same or a higher class stays out of reach of the letter. -/
def composeCluster (starter : Char) (kept : List Char) (barrier : Nat) : List Char → List Char
  | [] => starter :: kept.reverse
  | c :: rest =>
    let k := combiningClass c
    let blocked := !kept.isEmpty && (k == 0 || k ≤ barrier)
    match if blocked then none else composePair? starter c with
    | some d => composeCluster d kept barrier rest
    | none =>
      if k = 0 then starter :: kept.reverse ++ composeCluster c [] 0 rest
      else composeCluster starter (c :: kept) (max k barrier) rest

/-- The composed normal form of a sequence of characters. -/
def composeChars (cs : List Char) : List Char :=
  if cs.all fun c => c.toNat < 0x300 then cs
  else
    match sortMarks (cs.flatMap decompose) with
    | [] => []
    | c :: rest => composeCluster c [] 0 rest

/-- The composed normal form of a text. -/
def compose (s : String) : String :=
  String.ofList (composeChars s.toList)

/-- The compatibility-decomposed normal form of a sequence of characters. -/
def decomposeAll (cs : List Char) : List Char :=
  sortMarks (cs.flatMap decomposeCompatibly)

end Daybook.Text
